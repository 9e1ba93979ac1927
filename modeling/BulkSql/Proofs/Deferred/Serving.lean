import BulkSql.Proofs.Deferred.FailedPrepare
import BulkSql.Proofs.Deferred.Voiding

/-! # What a prepared statement is asked

Once a deferred statement has prepared a text, whatever it goes on to ask of its client prepares nothing and closes
nothing, also where a call fails halfway. A statement whose rows were executed in bulk, and a closed one, ask nothing.
-/

namespace BulkSql

namespace ClientCall

variable {Rows : Type}

/-- The text that a call prepared. -/
def preparedText? : ClientCall Rows → Option Text
  | prepare sql (.ok _) => some sql
  | _ => none

/-- A preparation that failed. -/
def isRefusal : ClientCall Rows → Bool
  | prepare _ (.error _) => true
  | _ => false

def isClose : ClientCall Rows → Bool
  | close _ => true
  | _ => false

/-- A call that neither prepares a statement nor closes one. -/
def isUse : ClientCall Rows → Bool
  | prepare .. | close _ => false
  | _ => true

end ClientCall

/-! ## Relations that calls keep -/

namespace Call

variable {State α β ι : Type} {relates : State → State → Prop}

/-- A call leads from every state to one in relation to it, whether it is answered or fails. -/
def Keeps (relates : State → State → Prop) (call : Call State α) : Prop :=
  ∀ state, relates state (call.on state).2

theorem keeps_pure [Std.Refl relates] (a : α) : Keeps relates (pure a : Call State α) := by
  intro state
  rw [on_pure]
  exact Std.Refl.refl state

theorem keeps_get [Std.Refl relates] : Keeps relates (get : Call State State) := by
  intro state
  rw [on_get]
  exact Std.Refl.refl state

theorem Keeps.bind [IsTrans State relates] {call : Call State α} {next : α → Call State β} (first : Keeps relates call)
    (second : ∀ a, Keeps relates (next a)) : Keeps relates (call >>= next) := by
  intro state
  have one := first state
  rw [on_bind]
  rcases ran : call.on state with ⟨_ | a, after⟩
  · rwa [ran] at one
  · rw [ran] at one
    exact IsTrans.trans _ _ _ one (second a after)

theorem keeps_forM [Std.Refl relates] [IsTrans State relates] {body : ι → Call State Unit}
    (each : ∀ item, Keeps relates (body item)) (items : List ι) : Keeps relates (items.forM body) := by
  induction items with
  | nil => exact keeps_pure ()
  | cons item items ih => exact (each item).bind fun _ => ih

end Call

/-- What was asked between two states neither prepares nor closes, and what is watched is as before. -/
structure Uses {Rows State Watched : Type} (journal : State → Journal Rows) (watched : State → Watched)
    (before after : State) : Prop where
  watched : watched after = watched before
  asked : ∃ uses, journal after = journal before ++ uses ∧ ∀ call ∈ uses, call.isUse

namespace Uses

variable {Rows State Watched : Type} {journal : State → Journal Rows} {watched : State → Watched}

instance : Std.Refl (Uses journal watched) where
  refl before := ⟨rfl, [], (List.append_nil (journal before)).symm, List.forall_mem_nil _⟩

instance : IsTrans State (Uses journal watched) where
  trans := by
    rintro first second third ⟨same, uses, grown, used⟩ ⟨sameMore, more, grownMore, usedMore⟩
    refine ⟨sameMore.trans same, uses ++ more, ?_, List.forall_mem_append.mpr ⟨used, usedMore⟩⟩
    rw [grownMore, grown, List.append_assoc]

end Uses

namespace Deferred

variable {Connection Handle Rows α : Type}

/-- All of a session but the values and rows it keeps. -/
def statementFrame (session : Session Connection Handle) : Text × Settings × StatementState :=
  (session.statement.sql, session.statement.settings, session.statement.state)

/-- A session is used: its client is asked for what neither prepares nor closes, and it stays where it is. -/
abbrev SessionUses : JournaledSession Connection Handle Rows → JournaledSession Connection Handle Rows → Prop :=
  Uses sessionJournal statementFrame

abbrev HandleUses : (Connection × Journal Rows) × Handle → (Connection × Journal Rows) × Handle → Prop :=
  Uses handleJournal fun _ => ()

theorem keeps_notedOnHandle (call : Call (Connection × Handle) α) {note : Except SqlError α → ClientCall Rows}
    (used : ∀ answer, (note answer).isUse) : Call.Keeps HandleUses (call.notedOnHandle note) := by
  rintro ⟨⟨connection, journal⟩, handle⟩
  rw [Call.on_notedOnHandle]
  exact ⟨rfl, [note (call.on (connection, handle)).1], rfl, List.forall_mem_singleton.mpr (used _)⟩

theorem keeps_onConnection (call : Call Connection α) {note : Except SqlError α → ClientCall Rows}
    (used : ∀ answer, (note answer).isUse) :
    Call.Keeps SessionUses (onConnection (call.noted note) : SessionCall (Connection × Journal Rows) Handle α) := by
  intro session
  rw [on_onConnection, ← Prod.mk.eta (p := session.connection), Call.on_noted]
  exact ⟨rfl, [note (call.on session.connection.1).1], rfl, List.forall_mem_singleton.mpr (used _)⟩

theorem keeps_modifyStatement {change : DeferredStatement Handle → DeferredStatement Handle}
    (framed : ∀ statement, (change statement).sql = statement.sql ∧ (change statement).settings = statement.settings ∧
      (change statement).phase = statement.phase) :
    Call.Keeps SessionUses (modifyStatement change : SessionCall (Connection × Journal Rows) Handle Unit) := by
  intro session
  obtain ⟨sql, settings, phase⟩ := framed session.statement
  rw [on_modifyStatement]
  refine ⟨?_, [], (List.append_nil session.connection.2).symm, List.forall_mem_nil _⟩
  simp only [statementFrame, DeferredStatement.state, sql, settings, phase]

theorem state_withHandle (phase : Phase Handle) (handle : Handle) : (phase.withHandle handle).state = phase.state := by
  cases phase <;> rfl

theorem keeps_onHandle {call : Call ((Connection × Journal Rows) × Handle) α} (keeps : Call.Keeps HandleUses call) :
    Call.Keeps SessionUses (onHandle call) := by
  intro session
  rw [onHandle, Call.on_bind_ok (Call.on_get session)]
  cases prepared : session.statement.phase.handle? with
  | none =>
    rw [Call.on_throw]
    exact Std.Refl.refl session
  | some handle =>
    obtain ⟨-, uses, grown, used⟩ := keeps (session.connection, handle)
    rw [Call.on_onPart]
    refine ⟨?_, uses, grown, used⟩
    simp only [statementFrame, DeferredStatement.state, state_withHandle]

/-! ## After a preparation -/

variable (client : Client Connection Handle Rows) {session : JournaledSession Connection Handle Rows}

theorem keeps_bindRow (row : List SqlValue) : Call.Keeps HandleUses (client.journaled.bindRow row) :=
  Call.keeps_forM (fun pair => keeps_notedOnHandle (client.bind pair.2 pair.1) fun _ => rfl) (row.zipIdx 1)

theorem keeps_addRows (rows : List (List SqlValue)) : Call.Keeps HandleUses (client.journaled.addRows rows) :=
  Call.keeps_forM
    (fun row => (keeps_bindRow client row).bind fun _ => keeps_notedOnHandle client.addBatch fun _ => rfl) rows

theorem keeps_bindRecords (records : List ParameterRecord) :
    Call.Keeps HandleUses (client.journaled.bindRecords records) :=
  Call.keeps_forM (fun record => keeps_notedOnHandle (client.bind record.index record.value) fun _ => rfl) records

theorem keeps_load (rows : List (List SqlValue)) : Call.Keeps SessionUses (load client.journaled rows) := by
  apply (keeps_onHandle (keeps_addRows client rows)).bind
  intro _
  refine Call.Keeps.bind Call.keeps_get fun loaded => ?_
  refine Call.Keeps.bind (keeps_modifyStatement fun _ => ⟨rfl, rfl, rfl⟩) fun _ => ?_
  exact keeps_onHandle (keeps_bindRecords client loaded.statement.bindings.records)

theorem keeps_bindColumns (columns : List Column) : Call.Keeps SessionUses (bindColumns client.journaled columns) := by
  apply Call.keeps_forM
  rintro ⟨column, index⟩
  apply (keeps_onConnection (client.createArray column.type.name column.values) fun _ => rfl).bind
  intro array
  exact keeps_onHandle (keeps_notedOnHandle (client.bind index (.ofArray array)) fun _ => rfl)

/-- The session right behind a preparation. -/
def begun (session : JournaledSession Connection Handle Rows) (connection : Connection × Journal Rows)
    (phase : Phase Handle) : JournaledSession Connection Handle Rows :=
  { connection, statement := { session.statement with phase, batch := {} } }

variable {handle : Handle} {connection : Connection × Journal Rows}

/-- Where the statement's own text is prepared, the kept rows and the call follow. -/
theorem on_onVoided_of_prepared (deferred : session.statement.phase = .deferred)
    (prepared : (client.journaled.prepare session.statement.sql).on session.connection = (.ok handle, connection))
    (call : Call ((Connection × Journal Rows) × Handle) α) :
    (onVoided client.journaled call).on session =
      Call.on (do load client.journaled session.statement.batch.valueRows; onHandle call)
        (begun session connection (.voided handle)) := by
  have opened : (void client.journaled).on session =
      (load client.journaled session.statement.batch.valueRows).on (begun session connection (.voided handle)) := by
    rw [void, Call.on_bind_ok (Call.on_get session)]
    dsimp only
    rw [deferred]
    dsimp only
    rw [Call.on_bind_ok (by rw [on_onConnection, prepared])]
    rfl
  rw [onVoided, Call.on_bind, opened, Call.on_bind]

theorem uses_onVoided (deferred : session.statement.phase = .deferred)
    (prepared : (client.journaled.prepare session.statement.sql).on session.connection = (.ok handle, connection))
    {call : Call ((Connection × Journal Rows) × Handle) α} (keeps : Call.Keeps HandleUses call) :
    SessionUses (begun session connection (.voided handle)) ((onVoided client.journaled call).on session).2 := by
  rw [on_onVoided_of_prepared client deferred prepared]
  exact (keeps_load client _).bind (fun _ => keeps_onHandle keeps) _

theorem uses_executeRows
    (prepared : (client.journaled.prepare session.statement.sql).on session.connection = (.ok handle, connection)) :
    SessionUses (begun session connection (.voided handle)) ((executeRows client.journaled).on session).2 := by
  have opened : (executeRows client.journaled).on session =
      Call.on (do load client.journaled session.statement.batch.valueRows; onHandle client.journaled.executeBatch)
        (begun session connection (.voided handle)) := by
    rw [executeRows, Call.on_bind_ok (Call.on_get session)]
    dsimp only
    rw [Call.on_bind_ok (on_modifyStatement ..), Call.on_bind_ok (by rw [on_onConnection, prepared])]
    rfl
  rw [opened]
  exact (keeps_load client _).bind
    (fun _ => keeps_onHandle (keeps_notedOnHandle client.executeBatch fun _ => rfl)) _

theorem uses_executeBulk {bulk : BulkStatement}
    (fits : session.statement.batch.columns.length = bulk.parameterCount)
    (prepared : (client.journaled.prepare bulk.sql).on session.connection = (.ok handle, connection)) :
    SessionUses (begun session connection (.bulkExecuted handle))
      ((executeBulk client.journaled bulk).on session).2 := by
  have opened : (executeBulk client.journaled bulk).on session = Call.on (do
      bindColumns client.journaled session.statement.batch.columns
      let affected ← onHandle client.journaled.executeUpdate
      pure (List.replicate session.statement.batch.rows
        (if affected.toNat = session.statement.batch.rows then .noInfo else .failed)))
      (begun session connection (.bulkExecuted handle)) := by
    rw [executeBulk, Call.on_bind_ok (Call.on_get session)]
    dsimp only
    rw [if_neg (not_not.mpr fits), Call.on_bind_ok (on_modifyStatement ..),
      Call.on_bind_ok (by rw [on_onConnection, prepared])]
    rfl
  rw [opened]
  apply (keeps_bindColumns client _).bind
  intro _
  apply (keeps_onHandle (keeps_notedOnHandle client.executeUpdate fun _ => rfl)).bind
  intro affected
  exact Call.keeps_pure _

end Deferred

end BulkSql
