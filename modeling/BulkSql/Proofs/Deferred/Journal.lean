import BulkSql.Proofs.Deferred.Calls

/-! # What a statement asks of its client

A client can keep a journal of all calls on it, each with its answer. A call on a session over such a client either
stops at a call of the client that failed, or all calls that it made succeeded and it is answered. Sequences of calls
are composed by one rule, so what an operation asks of its client is read off its text.
-/

namespace BulkSql

/-- A call of a client with its answer. -/
inductive ClientCall (Rows : Type) where
  | prepare (sql : Text) (answer : Except SqlError Unit)
  | createArray (typeName : Text) (values : List SqlValue) (answer : Except SqlError ArrayValue)
  | bind (index : Nat) (value : SqlValue) (answer : Except SqlError Unit)
  | bindStream (index : Nat) (stream : Stream) (answer : Except SqlError Unit)
  | bindForeign (index : Nat) (answer : Except SqlError Unit)
  | clearParameters (answer : Except SqlError Unit)
  | addBatch (answer : Except SqlError Unit)
  | clearBatch (answer : Except SqlError Unit)
  | executeBatch (answer : Except SqlError (List BatchOutcome))
  | executeUpdate (answer : Except SqlError UInt64)
  | executeQuery (answer : Except SqlError Rows)
  | parameterTypes (answer : Except SqlError (List Text))
  | close (answer : Except SqlError Unit)

namespace ClientCall

def succeeded : ClientCall Rows → Bool
  | prepare _ answer | bind _ _ answer | bindStream _ _ answer | bindForeign _ answer | clearParameters answer
  | addBatch answer | clearBatch answer | close answer => answer.isOk
  | createArray _ _ answer => answer.isOk
  | executeBatch answer => answer.isOk
  | executeUpdate answer => answer.isOk
  | executeQuery answer => answer.isOk
  | parameterTypes answer => answer.isOk

end ClientCall

/-- Calls of a client in the order in which they were made. -/
abbrev Journal (Rows : Type) := List (ClientCall Rows)

namespace Call

variable {Connection Handle Rows α : Type}

/-- A call on a connection that is noted with its answer. -/
def noted (note : Except SqlError α → ClientCall Rows) (call : Call Connection α) :
    Call (Connection × Journal Rows) α :=
  ExceptT.mk fun (connection, journal) =>
    let (answer, after) := call.on connection
    (answer, (after, journal ++ [note answer]))

/-- A call on a prepared statement that is noted with its answer. -/
def notedOnHandle (note : Except SqlError α → ClientCall Rows) (call : Call (Connection × Handle) α) :
    Call ((Connection × Journal Rows) × Handle) α :=
  ExceptT.mk fun ((connection, journal), handle) =>
    let (answer, (after, handle)) := call.on (connection, handle)
    (answer, ((after, journal ++ [note answer]), handle))

theorem on_noted (note : Except SqlError α → ClientCall Rows) (call : Call Connection α) (connection : Connection)
    (journal : Journal Rows) :
    (call.noted note).on (connection, journal) =
      ((call.on connection).1, (call.on connection).2, journal ++ [note (call.on connection).1]) := rfl

theorem on_notedOnHandle (note : Except SqlError α → ClientCall Rows) (call : Call (Connection × Handle) α)
    (connection : Connection) (journal : Journal Rows) (handle : Handle) :
    (call.notedOnHandle note).on ((connection, journal), handle) =
      ((call.on (connection, handle)).1,
        ((call.on (connection, handle)).2.1, journal ++ [note (call.on (connection, handle)).1]),
        (call.on (connection, handle)).2.2) := rfl

end Call

/-- The client with a journal of all calls on it. -/
def Client.journaled {Connection Handle Rows : Type} (client : Client Connection Handle Rows) :
    Client (Connection × Journal Rows) Handle Rows where
  prepare sql := (client.prepare sql).noted fun answer => .prepare sql (answer.map fun _ => ())
  createArray typeName values := (client.createArray typeName values).noted (.createArray typeName values)
  bind index value := (client.bind index value).notedOnHandle (.bind index value)
  bindStream index stream := (client.bindStream index stream).notedOnHandle (.bindStream index stream)
  bindForeign index := (client.bindForeign index).notedOnHandle (.bindForeign index)
  clearParameters := client.clearParameters.notedOnHandle .clearParameters
  addBatch := client.addBatch.notedOnHandle .addBatch
  clearBatch := client.clearBatch.notedOnHandle .clearBatch
  executeBatch := client.executeBatch.notedOnHandle .executeBatch
  executeUpdate := client.executeUpdate.notedOnHandle .executeUpdate
  executeQuery := client.executeQuery.notedOnHandle .executeQuery
  parameterTypes := client.parameterTypes.notedOnHandle .parameterTypes
  close handle := (client.close handle).noted .close

/-! ## What a call performs -/

section Performs

variable {Rows State α β ι ρ : Type} {journal : State → Journal Rows} {state : State}

/-- A call on a state with a journal either stops at a call of the client that failed, or all calls that it made
succeeded, and then the answer, the state after it and these calls are as given. -/
def Performs (journal : State → Journal Rows) (call : Call State α) (state : State)
    (done : α → State → Journal Rows → Prop) : Prop :=
  ∃ answer after calls, call.on state = (answer, after) ∧ journal after = journal state ++ calls ∧
    match answer with
    | .ok a => (∀ asked ∈ calls, asked.succeeded) ∧ done a after calls
    | .error _ => ∃ asked ∈ calls, asked.succeeded = false

theorem performs_pure {a : α} {done : α → State → Journal Rows → Prop} (holds : done a state []) :
    Performs journal (pure a) state done :=
  ⟨.ok a, state, [], rfl, by rw [List.append_nil], by simp, holds⟩

/-- Calls in sequence make their calls of the client in sequence. -/
theorem Performs.bind {call : Call State α} {next : α → Call State β} {between : α → State → Journal Rows → Prop}
    {done : β → State → Journal Rows → Prop} (first : Performs journal call state between)
    (second : ∀ a after calls, between a after calls →
      Performs journal (next a) after fun b last more => done b last (calls ++ more)) :
    Performs journal (call >>= next) state done := by
  obtain ⟨answer, after, calls, ran, grown, holds⟩ := first
  cases answer with
  | error error => exact ⟨.error error, after, calls, Call.on_bind_error ran next, grown, holds⟩
  | ok a =>
    obtain ⟨succeeded, holds⟩ := holds
    obtain ⟨result, last, more, ranNext, grownNext, holdsNext⟩ := second a after calls holds
    refine ⟨result, last, calls ++ more, (Call.on_bind_ok ran next).trans ranNext, ?_, ?_⟩
    · rw [grownNext, grown, List.append_assoc]
    · cases result with
      | error error =>
        obtain ⟨asked, member, failed⟩ := holdsNext
        exact ⟨asked, List.mem_append_right _ member, failed⟩
      | ok b => exact ⟨List.forall_mem_append.mpr ⟨succeeded, holdsNext.1⟩, holdsNext.2⟩

/-- A call that asks the client for nothing may come first. -/
theorem performs_bind_of_silent {call : Call State α} {next : α → Call State β} {a : α} {after : State}
    {done : β → State → Journal Rows → Prop} (answered : call.on state = (.ok a, after))
    (silent : journal after = journal state) (rest : Performs journal (next a) after done) :
    Performs journal (call >>= next) state done := by
  obtain ⟨answer, last, calls, ran, grown, holds⟩ := rest
  exact ⟨answer, last, calls, (Call.on_bind_ok answered next).trans ran, silent ▸ grown, holds⟩

theorem Performs.mono {call : Call State α} {done wider : α → State → Journal Rows → Prop}
    (performs : Performs journal call state done)
    (weaken : ∀ a after calls, done a after calls → wider a after calls) : Performs journal call state wider := by
  obtain ⟨answer, after, calls, ran, grown, holds⟩ := performs
  refine ⟨answer, after, calls, ran, grown, ?_⟩
  cases answer with
  | error error => exact holds
  | ok a => exact ⟨holds.1, weaken _ _ _ holds.2⟩

/-- A call that starts a journal is answered if all that it asks for succeeds. -/
theorem Performs.answered {call : Call State α} {done : α → State → Journal Rows → Prop}
    (performs : Performs journal call state done) (fresh : journal state = [])
    (succeeded : ∀ asked ∈ journal (call.on state).2, asked.succeeded) :
    ∃ a, (call.on state).1 = .ok a ∧ done a (call.on state).2 (journal (call.on state).2) := by
  obtain ⟨answer, after, calls, ran, grown, holds⟩ := performs
  rw [fresh, List.nil_append] at grown
  rw [ran] at succeeded ⊢
  rw [grown] at succeeded ⊢
  cases answer with
  | error error =>
    obtain ⟨asked, member, failed⟩ := holds
    rw [succeeded asked member] at failed
    cases failed
  | ok a => exact ⟨a, rfl, holds.2⟩

/-- A call for each item makes the calls of the items in their order; what an item asks for may depend on a result. -/
theorem performs_forM {body : ι → Call State Unit} {invariant : State → Prop} {asks : ι → ρ → Journal Rows}
    (each : ∀ item state, invariant state →
      Performs journal (body item) state fun _ after calls => invariant after ∧ ∃ result, calls = asks item result)
    (items : List ι) (holds : invariant state) :
    Performs journal (items.forM body) state fun _ after calls =>
      invariant after ∧ ∃ results, results.length = items.length ∧ calls = (List.zipWith asks items results).flatten := by
  induction items generalizing state with
  | nil => exact performs_pure ⟨holds, [], rfl, rfl⟩
  | cons item items ih =>
    refine (each item state holds).bind fun _ after calls ⟨kept, result, first⟩ => ?_
    refine (ih kept).mono fun _ last more ⟨keptLast, results, counted, rest⟩ => ?_
    exact ⟨keptLast, result :: results, congrArg (· + 1) counted, by rw [first, rest]; rfl⟩

/-- The same where the calls depend on the items alone. -/
theorem performs_forM_const {body : ι → Call State Unit} {asks : ι → Journal Rows}
    (each : ∀ item state, Performs journal (body item) state fun _ _ calls => calls = asks item) (items : List ι) :
    Performs journal (items.forM body) state fun _ _ calls => calls = items.flatMap asks := by
  induction items generalizing state with
  | nil => exact performs_pure rfl
  | cons item items ih =>
    refine (each item state).bind fun _ after calls first => ih.mono fun _ last more rest => ?_
    rw [first, rest, List.flatMap_cons]

end Performs

/-! ## Sessions over a journaled client -/

namespace Deferred

variable {Connection Handle Rows α : Type}

/-- A session over a client with a journal. -/
abbrev JournaledSession (Connection Handle Rows : Type) := Session (Connection × Journal Rows) Handle

def sessionJournal (session : JournaledSession Connection Handle Rows) : Journal Rows := session.connection.2

def handleJournal (state : (Connection × Journal Rows) × Handle) : Journal Rows := state.1.2

theorem performs_modifyStatement (change : DeferredStatement Handle → DeferredStatement Handle)
    {session : JournaledSession Connection Handle Rows} :
    Performs sessionJournal (modifyStatement change) session fun _ after calls =>
      after.statement = change session.statement ∧ calls = [] :=
  ⟨.ok (), { session with statement := change session.statement }, [], rfl, (List.append_nil _).symm, by simp, rfl, rfl⟩

/-- A noted call on the connection leaves the statement. -/
theorem performs_onConnection {call : Call Connection α} {note : Except SqlError α → ClientCall Rows}
    (faithful : ∀ answer, (note answer).succeeded = answer.isOk)
    {session : JournaledSession Connection Handle Rows} :
    Performs sessionJournal (onConnection (call.noted note)) session fun a after calls =>
      after.statement = session.statement ∧ calls = [note (.ok a)] := by
  obtain ⟨answer, after, ran⟩ : ∃ answer after, call.on session.connection.1 = (answer, after) := ⟨_, _, rfl⟩
  have noted : (call.noted note).on session.connection = (answer, (after, session.connection.2 ++ [note answer])) := by
    rw [← Prod.mk.eta (p := session.connection), Call.on_noted, ran]
  refine ⟨answer, { session with connection := (after, session.connection.2 ++ [note answer]) }, [note answer], ?_,
    rfl, ?_⟩
  · rw [onConnection, Call.on_onPart, noted]
  · cases answer with
    | error error => exact ⟨_, List.mem_singleton_self _, faithful _⟩
    | ok a => exact ⟨fun asked member => by rw [List.mem_singleton.mp member, faithful]; rfl, rfl, rfl⟩

/-- A noted call on a prepared statement. -/
theorem performs_notedOnHandle {call : Call (Connection × Handle) α} {note : Except SqlError α → ClientCall Rows}
    (faithful : ∀ answer, (note answer).succeeded = answer.isOk) {state : (Connection × Journal Rows) × Handle} :
    Performs handleJournal (call.notedOnHandle note) state fun a _ calls => calls = [note (.ok a)] := by
  obtain ⟨⟨connection, journal⟩, handle⟩ := state
  obtain ⟨answer, after, last, ran⟩ : ∃ answer after last, call.on (connection, handle) = (answer, (after, last)) :=
    ⟨_, _, _, rfl⟩
  refine ⟨answer, ((after, journal ++ [note answer]), last), [note answer], ?_, rfl, ?_⟩
  · rw [Call.on_notedOnHandle, ran]
  · cases answer with
    | error error => exact ⟨_, List.mem_singleton_self _, faithful _⟩
    | ok a => exact ⟨fun asked member => by rw [List.mem_singleton.mp member, faithful]; rfl, rfl⟩

/-- Calls on the prepared statement of a session change it and nothing else in the statement. -/
theorem performs_onHandle {call : Call ((Connection × Journal Rows) × Handle) α}
    {session : JournaledSession Connection Handle Rows} {handle : Handle}
    {done : α → (Connection × Journal Rows) × Handle → Journal Rows → Prop}
    (prepared : session.statement.phase.handle? = some handle)
    (performs : Performs handleJournal call (session.connection, handle) done) :
    Performs sessionJournal (onHandle call) session fun a after calls => ∃ last,
      after.statement = { session.statement with phase := session.statement.phase.withHandle last } ∧
      done a (after.connection, last) calls := by
  obtain ⟨answer, ⟨connection, last⟩, calls, ran, grown, holds⟩ := performs
  refine ⟨answer, ⟨connection, { session.statement with phase := session.statement.phase.withHandle last }⟩, calls, ?_,
    grown, ?_⟩
  · rw [onHandle, Call.on_bind_ok (Call.on_get session), prepared]
    change Call.on (Call.onPart _ _ call) session = _
    rw [Call.on_onPart, ran]
  · cases answer with
    | error error => exact holds
    | ok a => exact ⟨holds.1, last, rfl, holds.2⟩

end Deferred

end BulkSql
