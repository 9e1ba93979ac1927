import BulkSql.Proofs.Deferred.Execution

/-! # Voiding replays what was kept

A request that needs the prepared statement delivers the rows of the plain list to the statement's own batch and the
values of the row that is being built to its parameters, and is then passed on. From then on every request is passed
on as one call, and answered as that call is.
-/

namespace BulkSql

/-- A request as the one call of the client that it is passed on as, answered as that call is. -/
inductive Request.PassedOn {Rows : Type} :
    Request → ClientCall Rows → Except SqlError (Response Rows) → Prop where
  | setValue (index : Nat) (value : SqlValue) (answer) :
    PassedOn (.setValue index value) (.bind index value answer) (answer.map fun _ => .done)
  | setNull (index : Nat) (type : SqlType) (answer) :
    PassedOn (.setNull index type) (.bind index (.null type) answer) (answer.map fun _ => .done)
  | setNothing (index : Nat) (answer) :
    PassedOn (.setObject index none) (.bind index (.null .unknown) answer) (answer.map fun _ => .done)
  | setKnown (index : Nat) {object : HostValue} {value : SqlValue} (known : object.classify? = some value) (answer) :
    PassedOn (.setObject index (some object)) (.bind index value answer) (answer.map fun _ => .done)
  | setForeign (index : Nat) {object : HostValue} (unknown : object.classify? = none) (answer) :
    PassedOn (.setObject index (some object)) (.bindForeign index answer) (answer.map fun _ => .done)
  | setStream (index : Nat) (stream : Stream) (answer) :
    PassedOn (.setStream index stream) (.bindStream index stream answer) (answer.map fun _ => .done)
  | parameterTypes (answer) : PassedOn .parameterTypes (.parameterTypes answer) (answer.map .types)
  | clearParameters (answer) : PassedOn .clearParameters (.clearParameters answer) (answer.map fun _ => .done)
  | addBatch (answer) : PassedOn .addBatch (.addBatch answer) (answer.map fun _ => .done)
  | clearBatch (answer) : PassedOn .clearBatch (.clearBatch answer) (answer.map fun _ => .done)
  | executeBatch (answer) : PassedOn .executeBatch (.executeBatch answer) (answer.map .outcomes)
  | executeLargeBatch (answer) : PassedOn .executeLargeBatch (.executeBatch answer)
      (answer.map fun outcomes => .codes (outcomes.map BatchOutcome.code))
  | executeUpdate (answer) : PassedOn .executeUpdate (.executeUpdate answer) (answer.map .changed)
  | executeQuery (answer) : PassedOn .executeQuery (.executeQuery answer) (answer.map .rows)

namespace Journal

variable {Rows : Type}

/-- What a voided statement delivers before it is used: its rows, then the values of the row that is being built. -/
def replay (sql : Text) (plain : PlainBatch) : Journal Rows :=
  .prepare sql (.ok ()) :: plain.rows.flatMap row ++ binds plain.pending.entries

end Journal

namespace Deferred

variable {Connection Handle Rows α : Type} (client : Client Connection Handle Rows)
  {session : JournaledSession Connection Handle Rows} {sql : Text} {settings : Settings} {plain : PlainBatch}

/-! ## The voiding request -/

section Voided

variable {client : Client Connection Handle Rows} {session : Session Connection Handle} {handle : Handle}

theorem on_onVoided_of_voided (voided : session.statement.phase = .voided handle)
    (call : Call (Connection × Handle) α) : Call.on (onVoided client call) session = Call.on (onHandle call) session := by
  have nothing : Call.on (void client) session = (.ok (), session) := by
    rw [void, Call.on_bind_ok (Call.on_get session)]
    dsimp only
    rw [voided]
    rfl
  exact Call.on_bind_ok nothing _

theorem on_setValue_of_voided (voided : session.statement.phase = .voided handle) (index : Nat) (value : SqlValue) :
    Call.on (setValue client index value) session = Call.on (onHandle (client.bind index value)) session := by
  rw [setValue, Call.on_bind_ok (Call.on_get session), voided]

theorem on_clearParameters_of_voided (voided : session.statement.phase = .voided handle) :
    Call.on (clearParameters client) session = Call.on (onHandle client.clearParameters) session := by
  rw [clearParameters, Call.on_bind_ok (Call.on_get session), voided]

theorem on_addBatch_of_voided (voided : session.statement.phase = .voided handle) :
    Call.on (addBatch client) session = Call.on (onHandle client.addBatch) session := by
  rw [addBatch, Call.on_bind_ok (Call.on_get session)]
  dsimp only
  rw [voided]

theorem on_clearBatch_of_voided (voided : session.statement.phase = .voided handle) :
    Call.on (clearBatch client) session = Call.on (onHandle client.clearBatch) session := by
  rw [clearBatch, Call.on_bind_ok (Call.on_get session), voided]

theorem on_executeBatch_of_voided (voided : session.statement.phase = .voided handle) :
    Call.on (executeBatch client) session = Call.on (onHandle client.executeBatch) session := by
  rw [executeBatch, Call.on_bind_ok (Call.on_get session)]
  dsimp only
  rw [voided]

end Voided

/-- A noted call on the prepared statement is one call, whether it is answered or fails. -/
theorem on_onHandle_noted {handle : Handle} (voided : session.statement.phase = .voided handle)
    (call : Call (Connection × Handle) α) (note : Except SqlError α → ClientCall Rows) :
    ∃ answer connection last, Call.on (onHandle (call.notedOnHandle note)) session =
      (answer, { connection, statement := { session.statement with phase := .voided last } }) ∧
      connection.2 = sessionJournal session ++ [note answer] := by
  have noted := call.on_notedOnHandle note session.connection.1 session.connection.2 handle
  refine ⟨_, _, _, on_onHandle_of_voided voided (call.notedOnHandle note), ?_⟩
  rw [Prod.mk.eta] at noted
  rw [noted]
  rfl

/-- A voided statement passes every request but closing on, and stays as it is. -/
theorem answer_of_voided {handle : Handle} (voided : session.statement.phase = .voided handle) {request : Request}
    (opened : request ≠ .close) :
    ∃ call response connection last, request.answer client.journaled session =
      (response, { connection, statement := { session.statement with phase := .voided last } }) ∧
      request.PassedOn call response ∧ connection.2 = sessionJournal session ++ [call] := by
  have passes {α : Type} {note : Except SqlError α → ClientCall Rows} {respond : α → Response Rows}
      (passedOn : ∀ answer : Except SqlError α, request.PassedOn (note answer) (answer.map respond))
      {operation : SessionCall (Connection × Journal Rows) Handle α} {call : Call (Connection × Handle) α}
      (performed : request.perform client.journaled = operation >>= fun a => pure (respond a))
      (served : Call.on operation session = Call.on (onHandle (call.notedOnHandle note)) session) :
      ∃ call response connection last, request.answer client.journaled session =
        (response, { connection, statement := { session.statement with phase := .voided last } }) ∧
        request.PassedOn call response ∧ connection.2 = sessionJournal session ++ [call] := by
    obtain ⟨answer, connection, last, ran, grown⟩ := on_onHandle_noted voided call note
    refine ⟨note answer, answer.map respond, connection, last, ?_, passedOn answer, grown⟩
    change Call.on (request.perform client.journaled) session = _
    rw [performed, Call.on_bind_pure, served, ran]
  cases request with
  | setValue index value => exact passes (.setValue index value) rfl (on_setValue_of_voided voided index value)
  | setNull index type => exact passes (.setNull index type) rfl (on_setValue_of_voided voided index (.null type))
  | setObject index object? =>
    cases object? with
    | none => exact passes (.setNothing index) rfl (on_setValue_of_voided voided index (.null .unknown))
    | some object =>
      cases known : object.classify? with
      | some value =>
        exact passes (.setKnown index known) (by rw [Request.perform, setObject, known])
          (on_setValue_of_voided voided index value)
      | none =>
        exact passes (.setForeign index known) (by rw [Request.perform, setObject, known])
          (on_onVoided_of_voided voided (client.journaled.bindForeign index))
  | setStream index stream =>
    exact passes (.setStream index stream) rfl (on_onVoided_of_voided voided (client.journaled.bindStream index stream))
  | parameterTypes =>
    exact passes .parameterTypes rfl (on_onVoided_of_voided voided client.journaled.parameterTypes)
  | clearParameters => exact passes .clearParameters rfl (on_clearParameters_of_voided voided)
  | addBatch => exact passes .addBatch rfl (on_addBatch_of_voided voided)
  | clearBatch => exact passes .clearBatch rfl (on_clearBatch_of_voided voided)
  | executeBatch => exact passes .executeBatch rfl (on_executeBatch_of_voided voided)
  | executeLargeBatch =>
    exact passes .executeLargeBatch (perform_executeLargeBatch client.journaled) (on_executeBatch_of_voided voided)
  | executeUpdate => exact passes .executeUpdate rfl (on_onVoided_of_voided voided client.journaled.executeUpdate)
  | executeQuery => exact passes .executeQuery rfl (on_onVoided_of_voided voided client.journaled.executeQuery)
  | close => exact (opened rfl).elim

end Deferred

end BulkSql
