import Mathlib
import BulkSql.Deferred.Request

/-! # Runs of calls

What a call answers on a state and the state it leaves, for the ways in which calls are put together.
-/

namespace BulkSql

namespace Call

variable {State Part α β : Type}

/-- The answer to a call, and the state after it. -/
def on (call : Call State α) (state : State) : Except SqlError α × State := call.run.run state

@[simp] theorem on_pure (a : α) (state : State) : Call.on (pure a) state = (.ok a, state) := rfl

@[simp] theorem on_throw (error : SqlError) (state : State) :
    Call.on (throw error : Call State α) state = (.error error, state) := rfl

@[simp] theorem on_get (state : State) : Call.on (get : Call State State) state = (.ok state, state) := rfl

theorem on_bind (call : Call State α) (next : α → Call State β) (state : State) :
    Call.on (call >>= next) state =
      match Call.on call state with
      | (.ok a, after) => Call.on (next a) after
      | (.error error, after) => (.error error, after) := by
  simp only [on, ExceptT.run_bind, StateT.run_bind]
  rcases call.run.run state with ⟨_ | a, after⟩ <;> rfl

theorem on_bind_ok {call : Call State α} {state after : State} {a : α} (answered : Call.on call state = (.ok a, after))
    (next : α → Call State β) : Call.on (call >>= next) state = Call.on (next a) after := by
  rw [on_bind, answered]

theorem on_bind_error {call : Call State α} {state after : State} {error : SqlError}
    (failed : Call.on call state = (.error error, after)) (next : α → Call State β) :
    Call.on (call >>= next) state = (.error error, after) := by
  rw [on_bind, failed]

theorem on_bind_pure (call : Call State α) (f : α → β) (state : State) :
    Call.on (call >>= fun a => pure (f a)) state = ((Call.on call state).1.map f, (Call.on call state).2) := by
  rw [on_bind]
  rcases Call.on call state with ⟨_ | a, after⟩ <;> rfl

theorem on_onPart (part : State → Part) (put : State → Part → State) (call : Call Part α) (state : State) :
    Call.on (call.onPart part put) state = ((Call.on call (part state)).1, put state (Call.on call (part state)).2) :=
  rfl

@[simp] theorem on_ofExcept (answer : Except SqlError α) (state : State) :
    Call.on (MonadExcept.ofExcept answer : Call State α) state = (answer, state) := by
  cases answer <;> rfl

end Call

theorem BindingTable.on_takeRow (table : BindingTable) : takeRow.on table = (table.row, {}) := by
  rw [takeRow, Call.on_bind_ok (Call.on_get table)]
  exact Call.on_ofExcept table.row ({} : BindingTable)

namespace Deferred

variable {Connection Handle Rows α : Type}

theorem on_modifyStatement (change : DeferredStatement Handle → DeferredStatement Handle)
    (session : Session Connection Handle) :
    Call.on (modifyStatement change) session = (.ok (), { session with statement := change session.statement }) := rfl

theorem on_onBindings (call : Call BindingTable α) (session : Session Connection Handle) :
    (onBindings call).on session = ((call.on session.statement.bindings).1, { session with
      statement := { session.statement with bindings := (call.on session.statement.bindings).2 } }) := rfl

theorem on_onConnection (call : Call Connection α) (session : Session Connection Handle) :
    (onConnection call).on session =
      ((call.on session.connection).1, { session with connection := (call.on session.connection).2 }) := rfl

/-- A call on the handle of a voided statement. -/
theorem on_onHandle_of_voided {session : Session Connection Handle} {handle : Handle}
    (voided : session.statement.phase = .voided handle) (call : Call (Connection × Handle) α) :
    Call.on (onHandle call) session = ((call.on (session.connection, handle)).1, {
      connection := (call.on (session.connection, handle)).2.1
      statement := { session.statement with phase := .voided (call.on (session.connection, handle)).2.2 } }) := by
  rw [onHandle, Call.on_bind_ok (Call.on_get session), voided]
  change Call.on (Call.onPart _ _ call) session = _
  rw [Call.on_onPart, voided]
  rfl

theorem on_executeBatch_of_deferred (client : Client Connection Handle Rows) {session : Session Connection Handle}
    (deferred : session.statement.phase = .deferred) :
    (executeBatch client).on session =
      if session.statement.batch.isEmpty then (.ok [], session)
      else
        match session.statement.bulk? with
        | some bulk => (executeBulk client bulk).on session
        | none => (executeRows client).on session := by
  rw [executeBatch, Call.on_bind_ok (Call.on_get session)]
  dsimp only
  rw [deferred]
  dsimp only
  split
  · rfl
  · cases session.statement.bulk? <;> rfl

/-- The number for each row is put in place of its outcome in one step with the answer. -/
theorem perform_executeLargeBatch (client : Client Connection Handle Rows) :
    Request.perform client .executeLargeBatch =
      executeBatch client >>= fun outcomes => pure (.codes (outcomes.map BatchOutcome.code)) := by
  rw [Request.perform, executeLargeBatch, bind_assoc]
  simp only [pure_bind]

end Deferred

end BulkSql
