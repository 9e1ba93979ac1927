import BulkSql.Proofs.Deferred.Calls

/-! # When preparing fails

A request to a deferred statement that needs a prepared one is refused with the error of a failed preparation.
Voiding prepares before it takes the kept rows, so nothing is lost and the request can be repeated. Executing a batch
takes the rows first: they are lost, and a repeated execution answers that there was nothing to execute.
-/

namespace BulkSql

namespace Request

variable {Connection Handle Rows : Type}

/-- The text that a request to a deferred statement has to be prepared for. -/
def preparedText? (statement : DeferredStatement Handle) : Request → Option Text
  | setObject _ (some object) => if object.classify?.isSome then none else some statement.sql
  | setStream .. | parameterTypes | executeUpdate | executeQuery => some statement.sql
  | executeBatch | executeLargeBatch =>
    if statement.batch.isEmpty then none
    else
      match statement.bulk? with
      | some bulk => if statement.batch.columns.length ≠ bulk.parameterCount then none else some bulk.sql
      | none => some statement.sql
  | _ => none

def executesRows : Request → Bool
  | executeBatch | executeLargeBatch => true
  | _ => false

/-- The answer of a request that executes rows if there are none. -/
def noRowsAnswer? : Request → Option (Response Rows)
  | executeBatch => some (.outcomes [])
  | executeLargeBatch => some (.codes [])
  | _ => none

end Request

namespace Deferred

variable {Connection Handle Rows α : Type} (client : Client Connection Handle Rows)
  {session : Session Connection Handle} {error : SqlError} {after : Connection}

theorem on_onConnection_error {call : Call Connection α} {connection : Connection}
    {statement : DeferredStatement Handle} (failed : call.on connection = (.error error, after)) :
    (onConnection call).on { connection, statement } = (.error error, { connection := after, statement }) := by
  rw [on_onConnection, failed]

/-- Voiding prepares before anything else, so the statement is left as it was. -/
theorem on_void_error (deferred : session.statement.phase = .deferred)
    (failed : (client.prepare session.statement.sql).on session.connection = (.error error, after)) :
    (void client).on session = (.error error, { session with connection := after }) := by
  rw [void, Call.on_bind_ok (Call.on_get session)]
  dsimp only
  rw [deferred]
  exact Call.on_bind_error (on_onConnection_error failed) _

theorem on_onVoided_error (deferred : session.statement.phase = .deferred)
    (failed : (client.prepare session.statement.sql).on session.connection = (.error error, after))
    (call : Call (Connection × Handle) α) :
    (onVoided client call).on session = (.error error, { session with connection := after }) :=
  Call.on_bind_error (on_void_error client deferred failed) _

theorem on_executeBulk_error {bulk : BulkStatement}
    (fits : session.statement.batch.columns.length = bulk.parameterCount)
    (failed : (client.prepare bulk.sql).on session.connection = (.error error, after)) :
    (executeBulk client bulk).on session =
      (.error error, { connection := after, statement := { session.statement with batch := {} } }) := by
  rw [executeBulk, Call.on_bind_ok (Call.on_get session)]
  dsimp only
  rw [if_neg (not_not.mpr fits), Call.on_bind_ok (on_modifyStatement ..)]
  exact Call.on_bind_error (on_onConnection_error failed) _

theorem on_executeRows_error
    (failed : (client.prepare session.statement.sql).on session.connection = (.error error, after)) :
    (executeRows client).on session =
      (.error error, { connection := after, statement := { session.statement with batch := {} } }) := by
  rw [executeRows, Call.on_bind_ok (Call.on_get session)]
  dsimp only
  rw [Call.on_bind_ok (on_modifyStatement ..)]
  exact Call.on_bind_error (on_onConnection_error failed) _

/-- Executing a batch takes the rows before it prepares. -/
theorem on_executeBatch_error (deferred : session.statement.phase = .deferred) {sql : Text}
    (asks : Request.executeBatch.preparedText? session.statement = some sql)
    (failed : (client.prepare sql).on session.connection = (.error error, after)) :
    (executeBatch client).on session =
      (.error error, { connection := after, statement := { session.statement with batch := {} } }) := by
  rw [Request.preparedText?] at asks
  split_ifs at asks with empty
  rw [on_executeBatch_of_deferred client deferred, if_neg empty]
  cases form : session.statement.bulk? with
  | none =>
    rw [form] at asks
    obtain rfl := Option.some.inj asks
    exact on_executeRows_error client failed
  | some bulk =>
    rw [form] at asks
    dsimp only at asks
    split_ifs at asks with fits
    obtain rfl := Option.some.inj asks
    exact on_executeBulk_error client (not_not.mp fits) failed

theorem on_executeBatch_empty (deferred : session.statement.phase = .deferred)
    (empty : session.statement.batch.isEmpty) : (executeBatch client).on session = (.ok [], session) := by
  rw [on_executeBatch_of_deferred client deferred, if_pos empty]

end Deferred

namespace Request

variable {Connection Handle Rows : Type} (client : Client Connection Handle Rows)
  {session : Session Connection Handle} {request : Request} {sql : Text} {error : SqlError} {after : Connection}

open Deferred

/-- The answer to a request whose preparation fails is the error; the rows are lost exactly if it executes them. -/
theorem answer_of_failed_prepare (deferred : session.statement.phase = .deferred)
    (asks : request.preparedText? session.statement = some sql)
    (failed : (client.prepare sql).on session.connection = (.error error, after)) :
    request.answer client session = (.error error, { connection := after, statement :=
      if request.executesRows then { session.statement with batch := {} } else session.statement }) := by
  cases request with
  | setObject index object? =>
    cases object? with
    | none => cases asks
    | some object =>
      rw [preparedText?] at asks
      split_ifs at asks with known
      obtain rfl := Option.some.inj asks
      have foreign := Option.not_isSome_iff_eq_none.mp known
      have voided := on_onVoided_error client deferred failed (client.bindForeign index)
      have bound : (Deferred.setObject client index (some object)).on session =
          (.error error, { session with connection := after }) := by
        rw [Deferred.setObject, foreign]
        exact voided
      exact Call.on_bind_error bound _
  | setStream | parameterTypes | executeUpdate | executeQuery =>
    obtain rfl := Option.some.inj asks
    exact Call.on_bind_error (on_onVoided_error client deferred failed _) _
  | executeBatch => exact Call.on_bind_error (on_executeBatch_error client deferred asks failed) _
  | executeLargeBatch =>
    exact Call.on_bind_error (Call.on_bind_error (on_executeBatch_error client deferred asks failed) _) _
  | setValue | setNull | clearParameters | addBatch | clearBatch | close => cases asks

/-- Without rows there is nothing to execute. -/
theorem answer_of_no_rows (deferred : session.statement.phase = .deferred)
    (empty : session.statement.batch.isEmpty) {response : Response Rows}
    (executes : request.noRowsAnswer? = some response) : request.answer client session = (.ok response, session) := by
  have nothing := on_executeBatch_empty client deferred empty
  cases request with
  | executeBatch =>
    obtain rfl := Option.some.inj executes
    exact Call.on_bind_ok nothing _
  | executeLargeBatch =>
    obtain rfl := Option.some.inj executes
    exact Call.on_bind_ok (Call.on_bind_ok nothing _) _
  | _ => cases executes

/-- A request that executes rows prepares only if there are some. -/
theorem batch_ne_of_asks {statement : DeferredStatement Handle} (asks : request.preparedText? statement = some sql)
    (executes : request.executesRows) : { statement with batch := {} } ≠ statement := by
  intro same
  have empty : statement.batch.isEmpty := by rw [← same]; rfl
  cases request with
  | executeBatch | executeLargeBatch => simp [preparedText?, empty] at asks
  | _ => cases executes

/-- A failed preparation is answered with its error. It leaves the statement exactly if the request does not execute
rows; the rows that a request executes are lost, and repeating it succeeds without them. -/
theorem failed_prepare_keeps_statement_iff (deferred : session.statement.phase = .deferred)
    (asks : request.preparedText? session.statement = some sql)
    (failed : (client.prepare sql).on session.connection = (.error error, after)) :
    (request.answer client session).1 = .error error ∧
    ((request.answer client session).2.statement = session.statement ↔ request.executesRows = false) ∧
    (request.executesRows → ∃ response, request.noRowsAnswer? = some response ∧
      ∀ later : Session Connection Handle, later.statement = (request.answer client session).2.statement →
        request.answer client later = (.ok response, later)) := by
  rw [answer_of_failed_prepare client deferred asks failed]
  refine ⟨rfl, ?_, fun executes => ?_⟩
  · cases executes : request.executesRows with
    | false => simp
    | true => simpa using batch_ne_of_asks asks executes
  · obtain ⟨response, answer⟩ : ∃ response : Response Rows, request.noRowsAnswer? = some response := by
      cases request <;> first | exact ⟨_, rfl⟩ | cases executes
    refine ⟨response, answer, fun later same => answer_of_no_rows client ?_ ?_ answer⟩
    · rw [same, if_pos executes]
      exact deferred
    · rw [same, if_pos executes]
      rfl

/-- A client whose connection counts down the preparations that fail. -/
def refusingClient : Client Nat Unit Unit where
  prepare _ := ExceptT.mk fun refusals =>
    match refusals with
    | 0 => (.ok (), 0)
    | later + 1 => (.error .closed, later)
  createArray _ values := pure { element := .int4, elements := values }
  bind _ _ := pure ()
  bindStream _ _ := pure ()
  bindForeign _ := pure ()
  clearParameters := pure ()
  addBatch := pure ()
  clearBatch := pure ()
  executeBatch := pure [.updated 1]
  executeUpdate := pure 1
  executeQuery := pure ()
  parameterTypes := pure []
  close _ := pure ()

deriving instance DecidableEq for Response

/-- A statement with one row on a connection where some preparations fail. -/
def sampleSession (refusals : Nat) : Session Nat Unit :=
  (answerAll refusingClient { connection := refusals, statement :=
    { sql := "insert into t (a) values (?)".toList, settings := {} } } [.setValue 1 (.int 5), .addBatch]).2

/-- The row is kept where a query is refused, and lost where executing it is. -/
theorem failed_prepare_keeps_statement_iff_one_row :
    (executeQuery.answer refusingClient (sampleSession 1)).2.statement = (sampleSession 1).statement ∧
    (executeBatch.answer refusingClient (sampleSession 1)).2.statement ≠ (sampleSession 1).statement := by
  have deferred : (sampleSession 1).statement.phase = .deferred := rfl
  have refuses (sql : Text) : (refusingClient.prepare sql).on (sampleSession 1).connection = (.error .closed, 0) := rfl
  have asks : (executeBatch.preparedText? (sampleSession 1).statement).isSome := by decide +kernel
  obtain ⟨bulk, asks⟩ := Option.isSome_iff_exists.mp asks
  obtain ⟨-, kept, -⟩ := failed_prepare_keeps_statement_iff refusingClient deferred
    (show executeQuery.preparedText? _ = _ from rfl)
    (refuses _)
  obtain ⟨-, lost, -⟩ := failed_prepare_keeps_statement_iff refusingClient deferred asks (refuses bulk)
  exact ⟨kept.mpr rfl, fun same => Bool.noConfusion (lost.mp same)⟩

/-- Executing a row is refused, and repeated it succeeds without the row. -/
theorem executeBatch_loses_rows_of_failed_prepare :
    (sampleSession 1).statement.batch.rows = 1 ∧
    (executeBatch.answer refusingClient (sampleSession 1)).1.toOption = none ∧
    (executeBatch.answer refusingClient (sampleSession 1)).2.statement.batch.rows = 0 ∧
    (executeBatch.answer refusingClient (executeBatch.answer refusingClient (sampleSession 1)).2).1.toOption =
      some (.outcomes []) ∧
    (executeBatch.answer refusingClient (sampleSession 0)).1.toOption = some (.outcomes [.noInfo]) := by
  decide +kernel

end Request

end BulkSql
