import BulkSql.Proofs.Batch.Pending
import BulkSql.Proofs.Batch.PlainRows
import BulkSql.Proofs.Deferred.Journal

/-! # Building rows

While a statement is deferred it is a plain list of rows and the bindings of the row that is being built. Requests that
only bind, clear and end rows keep it so, whether they are refused or not, and ask the client for nothing.
-/

namespace BulkSql

/-- Bindings of the row that is being built, and the rows that were accepted. -/
structure PlainBatch where
  pending : Pending := []
  rows : PlainRows := []

namespace PlainBatch

def bind (plain : PlainBatch) (index : Nat) (value : SqlValue) : PlainBatch :=
  { plain with pending := (index, value) :: plain.pending }

/-- End the row that is being built. It is accepted if its indices have no gap and it fits the rows before it. -/
def addRow (plain : PlainBatch) : PlainBatch :=
  match plain.pending.row? with
  | some row => if plain.rows.accepts row then { pending := [], rows := plain.rows ++ [row] } else { plain with pending := [] }
  | none => { plain with pending := [] }

/-- The row that is being built can be ended. -/
def takesRow (plain : PlainBatch) : Bool := plain.pending.row?.any plain.rows.accepts

/-- What a request makes of the rows. -/
def after (plain : PlainBatch) : Request → PlainBatch
  | .setValue index value => plain.bind index value
  | .setNull index type => plain.bind index (.null type)
  | .setObject index none => plain.bind index (.null .unknown)
  | .setObject index (some object) => (object.classify?.map (plain.bind index)).getD plain
  | .clearParameters => { plain with pending := [] }
  | .addBatch => plain.addRow
  | .clearBatch => { plain with rows := [] }
  | _ => plain

end PlainBatch

/-- A request that a deferred statement keeps to itself. -/
def Request.IsKept : Request → Prop
  | setValue .. | setNull .. | setObject _ none | clearParameters | addBatch | clearBatch => True
  | setObject _ (some object) => object.classify?.isSome
  | _ => False

namespace Deferred

variable {Connection Handle Rows : Type}

/-- A statement is deferred and holds what the plain list does. -/
structure Holds (statement : DeferredStatement Handle) (sql : Text) (settings : Settings)
    (plain : PlainBatch) : Prop where
  sql : statement.sql = sql
  settings : statement.settings = settings
  phase : statement.phase = .deferred
  bindings : statement.bindings.Represents plain.pending
  batch : statement.batch.Represents plain.rows

variable {sql : Text} {settings : Settings} {plain : PlainBatch}

theorem holds_nil (sql : Text) (settings : Settings) :
    Holds ({ sql, settings } : DeferredStatement Handle) sql settings {} where
  sql := rfl
  settings := rfl
  phase := rfl
  bindings := BindingTable.represents_nil
  batch := ColumnBatch.represents_nil

variable (client : Client Connection Handle Rows) {session : Session Connection Handle}

theorem on_setValue (holds : Holds session.statement sql settings plain) (index : Nat) (value : SqlValue) :
    ∃ statement, Call.on (setValue client index value) session = (.ok (), { session with statement }) ∧
      Holds statement sql settings (plain.bind index value) := by
  refine ⟨{ session.statement with bindings := session.statement.bindings.set (.ofValue index value) }, ?_, ?_⟩
  · rw [setValue, Call.on_bind_ok (Call.on_get session), holds.phase]
    rfl
  · exact ⟨holds.sql, holds.settings, holds.phase, holds.bindings.set index value, holds.batch⟩

theorem on_clearParameters (holds : Holds session.statement sql settings plain) :
    ∃ statement, Call.on (clearParameters client) session = (.ok (), { session with statement }) ∧
      Holds statement sql settings { plain with pending := [] } := by
  refine ⟨{ session.statement with bindings := {} }, ?_, ?_⟩
  · rw [clearParameters, Call.on_bind_ok (Call.on_get session), holds.phase]
    rfl
  · exact ⟨holds.sql, holds.settings, holds.phase, BindingTable.represents_nil, holds.batch⟩

theorem on_clearBatch (holds : Holds session.statement sql settings plain) :
    ∃ statement, Call.on (clearBatch client) session = (.ok (), { session with statement }) ∧
      Holds statement sql settings { plain with rows := [] } := by
  refine ⟨{ session.statement with batch := {} }, ?_, ?_⟩
  · rw [clearBatch, Call.on_bind_ok (Call.on_get session), holds.phase]
    rfl
  · exact ⟨holds.sql, holds.settings, holds.phase, holds.bindings, ColumnBatch.represents_nil⟩

/-- Ending a row with a gap, or one that does not fit, is refused and leaves the rows; else the row is the last one. -/
theorem on_addBatch (holds : Holds session.statement sql settings plain) :
    ∃ answer statement, Call.on (addBatch client) session = (answer, { session with statement }) ∧
      Holds statement sql settings plain.addRow ∧ answer.isOk = plain.takesRow := by
  have cleared : Holds { session.statement with bindings := {} } sql settings { plain with pending := [] } :=
    ⟨holds.sql, holds.settings, holds.phase, BindingTable.represents_nil, holds.batch⟩
  have opened : Call.on (addBatch client) session = Call.on (do
      let row ← MonadExcept.ofExcept session.statement.bindings.row
      let batch ← MonadExcept.ofExcept (session.statement.batch.push row)
      modifyStatement fun statement => { statement with batch } : SessionCall Connection Handle Unit)
        { session with statement := { session.statement with bindings := {} } } := by
    rw [addBatch, Call.on_bind_ok (Call.on_get session)]
    conv_lhs => dsimp only; rw [holds.phase]
    dsimp only
    rw [Call.on_bind, on_onBindings, BindingTable.on_takeRow, Call.on_bind, Call.on_ofExcept]
  rw [opened, PlainBatch.addRow, PlainBatch.takesRow]
  rcases holds.bindings.row_eq with ⟨error, gap, failed⟩ | ⟨row, complete, taken⟩
  · rw [Call.on_bind_error (by rw [Call.on_ofExcept, failed]), gap]
    exact ⟨_, _, rfl, cleared, rfl⟩
  · rw [Call.on_bind_ok (by rw [Call.on_ofExcept, taken]), complete]
    by_cases fits : plain.rows.accepts row
    · obtain ⟨batch, pushed, same⟩ := holds.batch.push_of_accepts fits
      rw [Call.on_bind_ok (by rw [Call.on_ofExcept]; exact congrArg (·, _) pushed)]
      simp only [fits, if_true, Option.any_some]
      exact ⟨_, _, rfl, ⟨holds.sql, holds.settings, holds.phase, BindingTable.represents_nil, same⟩, rfl⟩
    · obtain ⟨error, refused⟩ := holds.batch.push_of_refused (Bool.eq_false_iff.mpr fits)
      rw [Call.on_bind_error (by rw [Call.on_ofExcept]; exact congrArg (·, _) refused)]
      simp only [fits, Option.any_some]
      exact ⟨_, _, rfl, cleared, rfl⟩

/-- A kept request asks the connection for nothing and does to the statement what it does to the plain list. -/
theorem Holds.answer (holds : Holds session.statement sql settings plain) {request : Request} (kept : request.IsKept) :
    ∃ response statement, request.answer client session = (response, { session with statement }) ∧
      Holds statement sql settings (plain.after request) := by
  have done {call : SessionCall Connection Handle Unit} {target : PlainBatch}
      (ran : ∃ statement, Call.on call session = (.ok (), { session with statement }) ∧
        Holds statement sql settings target) :
      ∃ response statement, Call.on (do call; pure (Response.done : Response Rows)) session =
        (response, { session with statement }) ∧ Holds statement sql settings target := by
    obtain ⟨statement, ran, same⟩ := ran
    exact ⟨_, statement, Call.on_bind_ok ran _, same⟩
  cases request with
  | setValue index value => exact done (on_setValue client holds index value)
  | setNull index type => exact done (on_setValue client holds index (.null type))
  | setObject index object? =>
    cases object? with
    | none => exact done (on_setValue client holds index (.null .unknown))
    | some object =>
      obtain ⟨value, classified⟩ := Option.isSome_iff_exists.mp kept
      have bound := done (on_setValue client holds index value)
      simp only [Request.answer, Request.perform, setObject, PlainBatch.after, classified, Option.map_some,
        Option.getD_some]
      exact bound
  | clearParameters => exact done (on_clearParameters client holds)
  | addBatch =>
    obtain ⟨answer, statement, ran, same, -⟩ := on_addBatch client holds
    cases answer with
    | error error => exact ⟨_, statement, Call.on_bind_error ran _, same⟩
    | ok _ => exact ⟨_, statement, Call.on_bind_ok ran _, same⟩
  | clearBatch => exact done (on_clearBatch client holds)
  | setStream | parameterTypes | executeBatch | executeLargeBatch | executeUpdate | executeQuery | close =>
    exact kept.elim

/-- Any number of kept requests. -/
theorem Holds.answerAll (holds : Holds session.statement sql settings plain) {requests : List Request}
    (kept : ∀ request ∈ requests, request.IsKept) :
    ∃ responses statement, Request.answerAll client session requests = (responses, { session with statement }) ∧
      Holds statement sql settings (requests.foldl PlainBatch.after plain) := by
  induction requests generalizing session plain with
  | nil => exact ⟨[], session.statement, rfl, holds⟩
  | cons request requests ih =>
    obtain ⟨response, statement, ran, same⟩ := holds.answer client (kept request (List.mem_cons_self ..))
    have follows : Holds ({ session with statement } : Session Connection Handle).statement sql settings _ := same
    obtain ⟨responses, last, ranAll, sameLast⟩ :=
      ih follows fun other member => kept other (List.mem_cons_of_mem _ member)
    refine ⟨response :: responses, last, ?_, sameLast⟩
    simp only [Request.answerAll, ran, ranAll]

end Deferred

end BulkSql
