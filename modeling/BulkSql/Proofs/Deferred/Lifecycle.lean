import BulkSql.Proofs.Bulk.Distinct
import BulkSql.Proofs.Bulk.Numbered
import BulkSql.Proofs.Deferred.Serving

/-! # The life of a prepared statement

A statement prepares at most one text, its own or its bulk form, and from then on holds what it prepared until it is
closed. Closing gives that up exactly once, and a closed statement asks its client for nothing. This holds whatever the
client refuses, also halfway through a request.
-/

namespace BulkSql

/-- The states that one request may lead to. -/
def StatementState.next : StatementState → List StatementState
  | deferred => [deferred, voided, bulkExecuted, closed]
  | voided => [voided, closed]
  | bulkExecuted => [bulkExecuted, closed]
  | closed => [closed]

/-- What a request is called where the state does not allow it. Clearing and closing are allowed where rows were
executed in bulk. -/
def Request.operation? : Request → Option Text
  | setValue .. | setNull .. | setObject _ none => some "bind".toList
  | setObject _ (some object) =>
    match object.classify? with
    | some _ => some "bind".toList
    | none => some "use the original statement of".toList
  | setStream .. | parameterTypes | executeUpdate | executeQuery => some "use the original statement of".toList
  | addBatch => some "add a row to".toList
  | executeBatch | executeLargeBatch => some "execute a batch on".toList
  | clearParameters | clearBatch | close => none

theorem Request.exists_operation (request : Request) :
    (∃ operation, request.operation? = some operation) ∨ request = clearParameters ∨ request = clearBatch ∨
      request = close := by
  cases request with
  | setObject index object? =>
    cases object? with
    | none => exact .inl ⟨_, rfl⟩
    | some object => cases known : object.classify? <;> exact .inl ⟨_, by rw [operation?, known]⟩
  | clearParameters | clearBatch | close => exact .inr (by simp)
  | _ => exact .inl ⟨_, rfl⟩

/-- The states that a request may lead a deferred statement to. Where it prepares, executing rows leads to bulk execution
if there is a bulk form, and everything else to a voided statement. -/
def Request.LeadsTo (sql : Text) (settings : Settings) (request : Request) : StatementState → Prop
  | .deferred => request ≠ .close
  | .voided => request ≠ .close ∧ (request.executesRows → ∀ bulk, ¬IsBulkForm sql settings bulk)
  | .bulkExecuted => request.executesRows ∧ ∃ bulk, IsBulkForm sql settings bulk
  | .closed => request = .close

/-- The phase that a request enters with what it prepared. It is voided by its own text, by executing rows only if there
is no bulk form. -/
inductive DeferredStatement.Enters {Handle : Type} (statement : DeferredStatement Handle) (request : Request)
    (text : Text) (handle : Handle) : Phase Handle → Prop where
  | voided (own : text = statement.sql) (unformed : request.executesRows → statement.bulk? = none) :
    Enters statement request text handle (.voided handle)
  | bulkExecuted (executes : request.executesRows) {bulk : BulkStatement} (form : statement.bulk? = some bulk)
    (text_eq : text = bulk.sql) : Enters statement request text handle (.bulkExecuted handle)

namespace Journal

variable {Rows : Type} {calls : Journal Rows} {text : Text}

/-- The texts that were prepared. -/
def prepared (calls : Journal Rows) : List Text := calls.filterMap ClientCall.preparedText?

/-- One text was prepared, and what it was prepared for was used since. -/
def Serves (text : Text) (calls : Journal Rows) : Prop :=
  ∃ refusals uses, calls = refusals ++ .prepare text (.ok ()) :: uses ∧ (∀ call ∈ refusals, call.isRefusal) ∧
    ∀ call ∈ uses, call.isUse

theorem prepared_append (first second : Journal Rows) : prepared (first ++ second) = prepared first ++ prepared second :=
  List.filterMap_append

theorem prepared_of_isRefusal (refused : ∀ call ∈ calls, call.isRefusal) : prepared calls = [] := by
  apply List.filterMap_eq_nil_iff.mpr
  intro call member
  have refusal := refused call member
  cases call with
  | prepare sql answer =>
    cases answer with
    | error error => rfl
    | ok _ => cases refusal
  | _ => cases refusal

theorem prepared_of_isUse (used : ∀ call ∈ calls, call.isUse) : prepared calls = [] := by
  apply List.filterMap_eq_nil_iff.mpr
  intro call member
  have use := used call member
  cases call with
  | prepare | close => cases use
  | _ => rfl

theorem Serves.prepared_eq (serves : Serves text calls) : prepared calls = [text] := by
  obtain ⟨refusals, uses, rfl, refused, used⟩ := serves
  rw [prepared_append, prepared_of_isRefusal refused, List.nil_append, ← List.singleton_append, prepared_append,
    prepared_of_isUse used]
  rfl

theorem Serves.used (serves : Serves text calls) {more : Journal Rows} (used : ∀ call ∈ more, call.isUse) :
    Serves text (calls ++ more) := by
  obtain ⟨refusals, uses, rfl, refused, usedBefore⟩ := serves
  refine ⟨refusals, uses ++ more, ?_, refused, List.forall_mem_append.mpr ⟨usedBefore, used⟩⟩
  rw [List.append_assoc, List.cons_append]

theorem serves_prepare (refused : ∀ call ∈ calls, call.isRefusal) (text : Text) :
    Serves text (calls ++ [.prepare text (.ok ())]) :=
  ⟨calls, [], rfl, refused, List.forall_mem_nil _⟩

/-- What was prepared is not yet closed. -/
theorem Serves.not_isClose (serves : Serves text calls) : ∀ call ∈ calls, call.isClose = false := by
  obtain ⟨refusals, uses, rfl, refused, used⟩ := serves
  refine List.forall_mem_append.mpr ⟨fun call member => ?_, List.forall_mem_cons.mpr ⟨rfl, fun call member => ?_⟩⟩
  · have refusal := refused call member
    cases call with
    | close answer => cases refusal
    | _ => rfl
  · have use := used call member
    cases call with
    | close answer => cases use
    | _ => rfl

end Journal

namespace Deferred

open Journal

variable {Connection Handle Rows : Type}

/-- What a statement's phase and the calls of its client tell of each other. -/
inductive Lives (sql : Text) (settings : Settings) (statement : DeferredStatement Handle) : Journal Rows → Prop where
  | deferred {plain : PlainBatch} (holds : Holds statement sql settings plain) {calls : Journal Rows}
    (refused : ∀ call ∈ calls, call.isRefusal) : Lives sql settings statement calls
  | voided {handle : Handle} (phase : statement.phase = .voided handle) {calls : Journal Rows}
    (serves : Serves sql calls) : Lives sql settings statement calls
  | bulkExecuted {handle : Handle} (phase : statement.phase = .bulkExecuted handle) {bulk : BulkStatement}
    (form : IsBulkForm sql settings bulk) {calls : Journal Rows} (serves : Serves bulk.sql calls) :
    Lives sql settings statement calls
  | unused (phase : statement.phase = .closed) {calls : Journal Rows} (refused : ∀ call ∈ calls, call.isRefusal) :
    Lives sql settings statement calls
  | released (phase : statement.phase = .closed) {text : Text} {before : Journal Rows} (serves : Serves text before)
    {answer : Except SqlError Unit} {calls : Journal Rows} (ends : calls = before ++ [.close answer]) :
    Lives sql settings statement calls

variable (client : Client Connection Handle Rows) {session : JournaledSession Connection Handle Rows} {sql : Text}
  {settings : Settings} {plain : PlainBatch} {request : Request}

/-! ## Requests to a deferred statement -/

/-- The session after a request that only puts what an operation answers in its own words. -/
theorem answer_of_performed {α : Type} {operation : SessionCall (Connection × Journal Rows) Handle α}
    {respond : α → Response Rows}
    (performed : request.perform client.journaled = operation >>= fun a => pure (respond a)) :
    (request.answer client.journaled session).2 = (operation.on session).2 := by
  change (Call.on (request.perform client.journaled) session).2 = _
  rw [performed, Call.on_bind_pure]

theorem answer_of_executesRows (executes : request.executesRows) :
    (request.answer client.journaled session).2 = ((Deferred.executeBatch client.journaled).on session).2 := by
  cases request with
  | executeBatch => exact answer_of_performed client rfl
  | executeLargeBatch => exact answer_of_performed client (perform_executeLargeBatch client.journaled)
  | _ => cases executes

variable {text : Text} {handle : Handle} {connection : Connection × Journal Rows}

/-- The session after a request whose preparation succeeded: what was prepared is used from then on. -/
def UsesPrepared (session : JournaledSession Connection Handle Rows) (request : Request) (text : Text) (handle : Handle)
    (connection : Connection × Journal Rows) (after : JournaledSession Connection Handle Rows) : Prop :=
  ∃ phase, SessionUses (begun session connection phase) after ∧ session.statement.Enters request text handle phase

theorem usesPrepared_of_voids (deferred : session.statement.phase = .deferred)
    (prepared : (client.journaled.prepare session.statement.sql).on session.connection = (.ok handle, connection))
    {α : Type} {call : Call (Connection × Handle) α} {note : Except SqlError α → ClientCall Rows}
    (used : ∀ answer, (note answer).isUse) {respond : α → Response Rows} (otherwise : request.executesRows = false)
    (performed : request.perform client.journaled =
      onVoided client.journaled (call.notedOnHandle note) >>= fun a => pure (respond a)) :
    UsesPrepared session request session.statement.sql handle connection (request.answer client.journaled session).2 := by
  refine ⟨.voided handle, ?_, .voided rfl (by simp [otherwise])⟩
  rw [answer_of_performed client performed]
  exact uses_onVoided client deferred prepared (keeps_notedOnHandle call used)

theorem usesPrepared_of_executesRows (deferred : session.statement.phase = .deferred) (executes : request.executesRows)
    (asks : Request.executeBatch.preparedText? session.statement = some text)
    (prepared : (client.journaled.prepare text).on session.connection = (.ok handle, connection)) :
    UsesPrepared session request text handle connection (request.answer client.journaled session).2 := by
  rw [Request.preparedText?] at asks
  split_ifs at asks with empty
  rw [answer_of_executesRows client executes, on_executeBatch_of_deferred client.journaled deferred, if_neg empty]
  cases form : session.statement.bulk? with
  | none =>
    rw [form] at asks
    obtain rfl := Option.some.inj asks
    exact ⟨.voided handle, uses_executeRows client prepared, .voided rfl fun _ => form⟩
  | some bulk =>
    rw [form] at asks
    dsimp only at asks
    split_ifs at asks with fits
    obtain rfl := Option.some.inj asks
    exact ⟨.bulkExecuted handle, uses_executeBulk client (not_not.mp fits) prepared, .bulkExecuted executes form rfl⟩

theorem usesPrepared_of_asks (deferred : session.statement.phase = .deferred)
    (asks : request.preparedText? session.statement = some text)
    (prepared : (client.journaled.prepare text).on session.connection = (.ok handle, connection)) :
    UsesPrepared session request text handle connection (request.answer client.journaled session).2 := by
  cases request with
  | setObject index object? =>
    cases object? with
    | none => cases asks
    | some object =>
      rw [Request.preparedText?] at asks
      split_ifs at asks with known
      obtain rfl := Option.some.inj asks
      have foreign := Option.not_isSome_iff_eq_none.mp known
      exact usesPrepared_of_voids client deferred prepared (fun _ => rfl) rfl
        (by rw [Request.perform, setObject, foreign]; rfl)
  | setStream | parameterTypes | executeUpdate | executeQuery =>
    obtain rfl := Option.some.inj asks
    exact usesPrepared_of_voids client deferred prepared (fun _ => rfl) rfl rfl
  | executeBatch | executeLargeBatch => exact usesPrepared_of_executesRows client deferred rfl asks prepared
  | setValue | setNull | clearParameters | addBatch | clearBatch | close => cases asks

/-- A request to a deferred statement that prepares nothing asks for nothing. -/
theorem Holds.answer_of_unprepared (holds : Holds session.statement sql settings plain)
    (asks : request.preparedText? session.statement = none) (opened : request ≠ .close) :
    ∃ statement plain, (request.answer client.journaled session).2 = { session with statement } ∧
      Holds statement sql settings plain := by
  have keeps (kept : request.IsKept) : ∃ statement plain,
      (request.answer client.journaled session).2 = { session with statement } ∧ Holds statement sql settings plain := by
    obtain ⟨response, statement, ran, same⟩ := holds.answer client.journaled kept
    exact ⟨statement, _, congrArg Prod.snd ran, same⟩
  have executes (executes : request.executesRows) (asks : Request.executeBatch.preparedText? session.statement = none) :
      ∃ statement plain, (request.answer client.journaled session).2 = { session with statement } ∧
        Holds statement sql settings plain := by
    rw [Request.preparedText?] at asks
    rw [answer_of_executesRows client executes, on_executeBatch_of_deferred client.journaled holds.phase]
    split_ifs at asks with empty
    · rw [if_pos empty]
      exact ⟨session.statement, plain, rfl, holds⟩
    · rw [if_neg empty]
      cases form : session.statement.bulk? with
      | none => rw [form] at asks; cases asks
      | some bulk =>
        rw [form] at asks
        dsimp only at asks
        split_ifs at asks with misfit
        have cleared : Holds { session.statement with batch := {} } sql settings { plain with rows := [] } :=
          ⟨holds.sql, holds.settings, holds.phase, holds.bindings, ColumnBatch.represents_nil⟩
        rw [holds.batch.width] at misfit
        exact ⟨_, _, congrArg Prod.snd (holds.executeBulk_refused client misfit.symm), cleared⟩
  cases request with
  | setObject index object? =>
    cases object? with
    | none => exact keeps trivial
    | some object =>
      rw [Request.preparedText?] at asks
      split_ifs at asks with known
      exact keeps known
  | setStream | parameterTypes | executeUpdate | executeQuery => cases asks
  | executeBatch | executeLargeBatch => exact executes rfl asks
  | setValue | setNull | clearParameters | addBatch | clearBatch => exact keeps trivial
  | close => exact (opened rfl).elim

/-! ## Requests to other statements -/

section Spent

variable {client : Client Connection Handle Rows} {session : Session Connection Handle} {operation : Text}

/-- What a statement answers that has nothing left to execute. -/
def Refuses {α : Type} (call : SessionCall Connection Handle α) (session : Session Connection Handle)
    (operation : Text) : Prop :=
  call.on session = (.error (.notAllowed operation session.statement.state), session)

variable (spent : (∃ handle, session.statement.phase = .bulkExecuted handle) ∨ session.statement.phase = .closed)

include spent

theorem refuses_onVoided {α : Type} (call : Call (Connection × Handle) α) :
    Refuses (onVoided client call) session "use the original statement of" := by
  apply Call.on_bind_error
  rw [void, Call.on_bind_ok (Call.on_get session)]
  dsimp only
  rcases spent with ⟨handle, phase⟩ | phase <;> rw [DeferredStatement.state, phase] <;> rfl

theorem refuses_setValue (index : Nat) (value : SqlValue) :
    Refuses (setValue client index value) session "bind" := by
  rw [Refuses, setValue, Call.on_bind_ok (Call.on_get session)]
  rcases spent with ⟨handle, phase⟩ | phase <;> rw [DeferredStatement.state, phase] <;> rfl

theorem refuses_addBatch : Refuses (addBatch client) session "add a row to" := by
  rw [Refuses, addBatch, Call.on_bind_ok (Call.on_get session)]
  dsimp only
  rcases spent with ⟨handle, phase⟩ | phase <;> rw [DeferredStatement.state, phase] <;> rfl

theorem refuses_executeBatch : Refuses (executeBatch client) session "execute a batch on" := by
  rw [Refuses, executeBatch, Call.on_bind_ok (Call.on_get session)]
  dsimp only
  rcases spent with ⟨handle, phase⟩ | phase <;> rw [DeferredStatement.state, phase] <;> rfl

/-- A statement whose rows were executed in bulk, or that is closed, refuses what its state does not allow, and stays
as it is. -/
theorem answer_of_spent (named : request.operation? = some operation) :
    request.answer client session = (.error (.notAllowed operation session.statement.state), session) := by
  have refused {α : Type} {call : SessionCall Connection Handle α} {respond : α → Response Rows}
      (performed : request.perform client = call >>= fun a => pure (respond a)) (refuses : Refuses call session operation) :
      request.answer client session = (.error (.notAllowed operation session.statement.state), session) := by
    change Call.on (request.perform client) session = _
    rw [performed, Call.on_bind_error refuses]
  cases request with
  | setObject index object? =>
    cases object? with
    | none =>
      obtain rfl := Option.some.inj named
      exact refused rfl (refuses_setValue spent index (.null .unknown))
    | some object =>
      cases known : object.classify? with
      | some value =>
        rw [Request.operation?, known] at named
        obtain rfl := Option.some.inj named
        exact refused (by rw [Request.perform, setObject, known]) (refuses_setValue spent index value)
      | none =>
        rw [Request.operation?, known] at named
        obtain rfl := Option.some.inj named
        exact refused (by rw [Request.perform, setObject, known]) (refuses_onVoided spent (client.bindForeign index))
  | setValue | setNull =>
    obtain rfl := Option.some.inj named
    exact refused rfl (refuses_setValue spent _ _)
  | setStream | parameterTypes | executeUpdate | executeQuery =>
    obtain rfl := Option.some.inj named
    exact refused rfl (refuses_onVoided spent _)
  | addBatch =>
    obtain rfl := Option.some.inj named
    exact refused rfl (refuses_addBatch spent)
  | executeBatch =>
    obtain rfl := Option.some.inj named
    exact refused rfl (refuses_executeBatch spent)
  | executeLargeBatch =>
    obtain rfl := Option.some.inj named
    exact refused (perform_executeLargeBatch client) (refuses_executeBatch spent)
  | clearParameters | clearBatch | close => cases named

end Spent

section Closed

variable {client : Client Connection Handle Rows} {session : Session Connection Handle}

/-- A closed statement refuses everything but closing, and stays as it is. -/
theorem answer_of_closed (closed : session.statement.phase = .closed) (opened : request ≠ .close) :
    request.answer client session = (.error .closed, session) := by
  rcases request.exists_operation with ⟨operation, named⟩ | rfl | rfl | rfl
  · rw [answer_of_spent (.inr closed) named, DeferredStatement.state, closed]
    rfl
  · apply Call.on_bind_error
    rw [Deferred.clearParameters, Call.on_bind_ok (Call.on_get session), closed]
    rfl
  · apply Call.on_bind_error
    rw [Deferred.clearBatch, Call.on_bind_ok (Call.on_get session), closed]
    rfl
  · exact (opened rfl).elim

variable (client) in
/-- After rows were executed in bulk, requests but closing ask for nothing. -/
theorem answer_of_bulkExecuted {handle : Handle} (executed : session.statement.phase = .bulkExecuted handle)
    (opened : request ≠ .close) :
    ∃ statement, (request.answer client session).2 = { session with statement } ∧
      statement.phase = .bulkExecuted handle := by
  rcases request.exists_operation with ⟨operation, named⟩ | rfl | rfl | rfl
  · rw [answer_of_spent (.inl ⟨handle, executed⟩) named]
    exact ⟨session.statement, rfl, executed⟩
  · have cleared : Call.on (Deferred.clearParameters client) session =
        (.ok (), { session with statement := { session.statement with bindings := {} } }) := by
      rw [Deferred.clearParameters, Call.on_bind_ok (Call.on_get session), executed]
      rfl
    exact ⟨_, congrArg Prod.snd (Call.on_bind_ok cleared _), executed⟩
  · have cleared : Call.on (Deferred.clearBatch client) session =
        (.ok (), { session with statement := { session.statement with batch := {} } }) := by
      rw [Deferred.clearBatch, Call.on_bind_ok (Call.on_get session), executed]
      rfl
    exact ⟨_, congrArg Prod.snd (Call.on_bind_ok cleared _), executed⟩
  · exact (opened rfl).elim

end Closed

/-! ## Closing -/

theorem answer_close_of_unprepared (nothing : session.statement.phase.handle? = none) :
    Request.answer client.journaled session .close = (.ok .done, { session with
      statement := { session.statement with phase := .closed, bindings := {}, batch := {} } }) := by
  apply Call.on_bind_ok
  rw [Deferred.close, Call.on_bind_ok (Call.on_get session), nothing]
  rfl

/-- What was prepared is closed by one call, whether that is answered or fails. -/
theorem answer_close_of_prepared {handle : Handle} (prepared : session.statement.phase.handle? = some handle) :
    ∃ answer connection, (Request.answer client.journaled session .close).2 = { connection, statement :=
        { session.statement with phase := .closed, bindings := {}, batch := {} } } ∧
      connection.2 = sessionJournal session ++ [.close answer] := by
  have closes : (Request.answer client.journaled session .close).2 =
      ((Deferred.close client.journaled).on session).2 := by
    change (Call.on (Request.perform client.journaled .close) session).2 = _
    rw [Request.perform, Call.on_bind]
    rcases (Deferred.close client.journaled).on session with ⟨_ | _, after⟩ <;> rfl
  refine ⟨((client.close handle).on session.connection.1).1, (((client.close handle).on session.connection.1).2,
    sessionJournal session ++ [.close ((client.close handle).on session.connection.1).1]), ?_, rfl⟩
  rw [closes, Deferred.close, Call.on_bind_ok (Call.on_get session), prepared]
  rfl

/-! ## The life of a statement -/

theorem Request.PassedOn.isUse {call : ClientCall Rows} {response : Except SqlError (Response Rows)}
    (passedOn : request.PassedOn call response) : call.isUse := by
  cases passedOn <;> rfl

theorem Holds.unbatched {statement : DeferredStatement Handle} (holds : Holds statement sql settings plain) :
    Holds { statement with batch := {} } sql settings { plain with rows := [] } :=
  ⟨holds.sql, holds.settings, holds.phase, holds.bindings, ColumnBatch.represents_nil⟩

theorem exists_voided {phase : Phase Handle} (voided : phase.state = .voided) : ∃ handle, phase = .voided handle := by
  cases phase with
  | voided handle => exact ⟨handle, rfl⟩
  | _ => cases voided

theorem exists_bulkExecuted {phase : Phase Handle} (executed : phase.state = .bulkExecuted) :
    ∃ handle, phase = .bulkExecuted handle := by
  cases phase with
  | bulkExecuted handle => exact ⟨handle, rfl⟩
  | _ => cases executed

/-- Using what was prepared goes on with the life that its preparation began. -/
theorem lives_of_usesPrepared (holds : Holds session.statement sql settings plain)
    (refused : ∀ call ∈ sessionJournal session, call.isRefusal)
    (noted : connection.2 = sessionJournal session ++ [.prepare text (.ok ())]) (opened : request ≠ .close)
    {after : JournaledSession Connection Handle Rows}
    (uses : UsesPrepared session request text handle connection after) :
    Lives sql settings after.statement (sessionJournal after) ∧ request.LeadsTo sql settings after.statement.state := by
  obtain ⟨phase, ⟨framed, more, grown, used⟩, enters⟩ := uses
  have state : after.statement.phase.state = phase.state := congrArg (fun frame => frame.2.2) framed
  have serves : Serves text (sessionJournal after) := by
    rw [grown, show sessionJournal (begun session connection phase) = connection.2 from rfl, noted]
    exact (serves_prepare refused text).used used
  rw [DeferredStatement.state, state]
  have isForm (bulk : BulkStatement) : session.statement.bulk? = some bulk ↔ IsBulkForm sql settings bulk := by
    rw [DeferredStatement.bulk?_eq_some_iff, holds.sql, holds.settings]
  cases enters with
  | voided own unformed =>
    obtain ⟨last, voided⟩ := exists_voided state
    rw [own, holds.sql] at serves
    refine ⟨.voided voided serves, opened, fun executes bulk form => ?_⟩
    exact absurd ((isForm bulk).mpr form) (by simp [unformed executes])
  | @bulkExecuted executes bulk form text_eq =>
    obtain ⟨last, executed⟩ := exists_bulkExecuted state
    rw [text_eq] at serves
    exact ⟨.bulkExecuted executed ((isForm bulk).mp form) serves, executes, bulk, (isForm bulk).mp form⟩

/-- A deferred statement waits while preparations fail, and begins to serve with the first that succeeds. -/
theorem Holds.answer_lives (holds : Holds session.statement sql settings plain)
    (refused : ∀ call ∈ sessionJournal session, call.isRefusal) (opened : request ≠ .close) :
    Lives sql settings (request.answer client.journaled session).2.statement
        (sessionJournal (request.answer client.journaled session).2) ∧
      request.LeadsTo sql settings (request.answer client.journaled session).2.statement.state := by
  have waits {after : JournaledSession Connection Handle Rows} {plain : PlainBatch}
      (held : Holds after.statement sql settings plain) (refused : ∀ call ∈ sessionJournal after, call.isRefusal) :
      Lives sql settings after.statement (sessionJournal after) ∧
        request.LeadsTo sql settings after.statement.state := by
    rw [DeferredStatement.state, held.phase]
    exact ⟨.deferred held refused, opened⟩
  cases asks : request.preparedText? session.statement with
  | none =>
    obtain ⟨statement, plain, ran, held⟩ := holds.answer_of_unprepared client asks opened
    rw [ran]
    exact waits held refused
  | some text =>
    have noted : (client.journaled.prepare text).on session.connection =
        (((client.prepare text).on session.connection.1).1, ((client.prepare text).on session.connection.1).2,
          sessionJournal session ++
            [.prepare text (((client.prepare text).on session.connection.1).1.map fun _ => ())]) :=
      Call.on_noted (fun answer => .prepare text (answer.map fun _ => ())) (client.prepare text) session.connection.1
        session.connection.2
    cases answer : ((client.prepare text).on session.connection.1).1 with
    | error error =>
      rw [answer] at noted
      rw [Request.answer_of_failed_prepare client.journaled holds.phase asks noted]
      have refusedMore := List.forall_mem_append.mpr
        ⟨refused, List.forall_mem_singleton.mpr (show (ClientCall.prepare text (.error error)).isRefusal from rfl)⟩
      split
      · exact waits holds.unbatched refusedMore
      · exact waits holds refusedMore
    | ok handle =>
      rw [answer] at noted
      exact lives_of_usesPrepared holds refused rfl opened (usesPrepared_of_asks client holds.phase asks noted)

/-- Closing gives up what was prepared, if anything was. -/
theorem Lives.answer_close (lives : Lives sql settings session.statement (sessionJournal session)) :
    Lives sql settings (Request.answer client.journaled session .close).2.statement
        (sessionJournal (Request.answer client.journaled session .close).2) ∧
      (Request.answer client.journaled session .close).2.statement.state = .closed := by
  have unprepared (nothing : session.statement.phase.handle? = none) :
      (Request.answer client.journaled session .close).2 = { session with
        statement := { session.statement with phase := .closed, bindings := {}, batch := {} } } :=
    congrArg Prod.snd (answer_close_of_unprepared client nothing)
  have prepared {handle : Handle} (held : session.statement.phase.handle? = some handle) {text : Text}
      (serves : Serves text (sessionJournal session)) :
      Lives sql settings (Request.answer client.journaled session .close).2.statement
          (sessionJournal (Request.answer client.journaled session .close).2) ∧
        (Request.answer client.journaled session .close).2.statement.state = .closed := by
    obtain ⟨answer, connection, ran, grown⟩ := answer_close_of_prepared client held
    rw [ran]
    exact ⟨.released rfl serves grown, rfl⟩
  cases lives with
  | deferred holds refused =>
    rw [unprepared (by rw [holds.phase]; rfl)]
    exact ⟨.unused rfl refused, rfl⟩
  | voided phase serves => exact prepared (by rw [phase]; rfl) serves
  | bulkExecuted phase form serves => exact prepared (by rw [phase]; rfl) serves
  | unused phase refused =>
    rw [unprepared (by rw [phase]; rfl)]
    exact ⟨.unused rfl refused, rfl⟩
  | released phase serves ends =>
    rw [unprepared (by rw [phase]; rfl)]
    exact ⟨.released rfl serves ends, rfl⟩

/-- What one request makes of a statement's life. -/
theorem Lives.answer (lives : Lives sql settings session.statement (sessionJournal session)) (request : Request) :
    Lives sql settings (request.answer client.journaled session).2.statement
        (sessionJournal (request.answer client.journaled session).2) ∧
      (request.answer client.journaled session).2.statement.state ∈ session.statement.state.next ∧
      ((request.answer client.journaled session).2.statement.state = .closed ↔
        session.statement.state = .closed ∨ request = .close) ∧
      (session.statement.state = .deferred →
        request.LeadsTo sql settings (request.answer client.journaled session).2.statement.state) := by
  by_cases closing : request = .close
  · subst closing
    obtain ⟨lives, closed⟩ := lives.answer_close client
    refine ⟨lives, ?_, by simp [closed], fun _ => by rw [closed]; rfl⟩
    rw [closed]
    cases session.statement.state <;> simp [StatementState.next]
  · cases lives with
    | deferred holds refused =>
      obtain ⟨lives, leads⟩ := holds.answer_lives client refused closing
      have state : session.statement.state = .deferred := by rw [DeferredStatement.state, holds.phase]; rfl
      refine ⟨lives, ?_, ?_, fun _ => leads⟩
      · rw [state]
        cases (request.answer client.journaled session).2.statement.state <;> simp [StatementState.next]
      · simp only [state, closing, reduceCtorEq, or_self, iff_false]
        intro closed
        rw [closed] at leads
        exact closing leads
    | voided phase serves =>
      obtain ⟨call, response, connection, last, ran, passedOn, grown⟩ := answer_of_voided client phase closing
      rw [ran, DeferredStatement.state, DeferredStatement.state, phase]
      refine ⟨.voided rfl ?_, List.mem_cons_self .., by simp [Phase.state, closing], by simp [Phase.state]⟩
      rw [sessionJournal, grown]
      exact serves.used (List.forall_mem_singleton.mpr (Request.PassedOn.isUse passedOn))
    | bulkExecuted phase form serves =>
      obtain ⟨statement, ran, executed⟩ := answer_of_bulkExecuted client.journaled phase closing
      rw [ran, DeferredStatement.state, DeferredStatement.state, phase, executed]
      exact ⟨.bulkExecuted executed form serves, List.mem_cons_self .., by simp [Phase.state, closing],
        by simp [Phase.state]⟩
    | unused phase refused =>
      rw [answer_of_closed phase closing, DeferredStatement.state, phase]
      exact ⟨.unused phase refused, List.mem_cons_self .., by simp [Phase.state], by simp [Phase.state]⟩
    | released phase serves ends =>
      rw [answer_of_closed phase closing, DeferredStatement.state, phase]
      exact ⟨.released phase serves ends, List.mem_cons_self .., by simp [Phase.state], by simp [Phase.state]⟩

/-- What any number of requests make of it. -/
theorem Lives.answerAll (lives : Lives sql settings session.statement (sessionJournal session))
    (requests : List Request) :
    Lives sql settings (Request.answerAll client.journaled session requests).2.statement
        (sessionJournal (Request.answerAll client.journaled session requests).2) ∧
      ((Request.answerAll client.journaled session requests).2.statement.state = .closed ↔
        session.statement.state = .closed ∨ .close ∈ requests) := by
  induction requests generalizing session with
  | nil => exact ⟨lives, by simp [Request.answerAll]⟩
  | cons request requests ih =>
    obtain ⟨livesNext, -, closed, -⟩ := lives.answer client request
    obtain ⟨livesLast, closedLast⟩ := ih livesNext
    refine ⟨livesLast, closedLast.trans ?_⟩
    rw [closed, List.mem_cons, or_assoc, eq_comm (a := request)]

/-- What the calls so far prepared, by the state of the statement. -/
theorem Lives.prepared {calls : Journal Rows} {statement : DeferredStatement Handle}
    (lives : Lives sql settings statement calls) :
    match statement.state with
    | .deferred => Journal.prepared calls = []
    | .voided => Journal.prepared calls = [sql]
    | .bulkExecuted => ∃ bulk, IsBulkForm sql settings bulk ∧ Journal.prepared calls = [bulk.sql]
    | .closed => Journal.prepared calls = [] ∨ ∃ text before answer, Journal.prepared calls = [text] ∧
        calls = before ++ [.close answer] ∧ ∀ call ∈ before, call.isClose = false := by
  cases lives with
  | deferred holds refused =>
    rw [DeferredStatement.state, holds.phase]
    exact prepared_of_isRefusal refused
  | voided phase serves =>
    rw [DeferredStatement.state, phase]
    exact serves.prepared_eq
  | bulkExecuted phase form serves =>
    rw [DeferredStatement.state, phase]
    exact ⟨_, form, serves.prepared_eq⟩
  | unused phase refused =>
    rw [DeferredStatement.state, phase]
    exact .inl (prepared_of_isRefusal refused)
  | @released phase text before serves answer _ ends =>
    rw [DeferredStatement.state, phase]
    refine .inr ⟨text, before, answer, ?_, ends, serves.not_isClose⟩
    rw [ends, prepared_append, serves.prepared_eq]
    rfl

/-- What holds of a statement after requests. -/
structure Lived (client : Client Connection Handle Rows) (sql : Text) (settings : Settings) (requests : List Request)
    (session : JournaledSession Connection Handle Rows) : Prop where
  preparedOnce : (Journal.prepared (sessionJournal session)).length ≤ 1
  next (request : Request) :
    (request.answer client.journaled session).2.statement.state ∈ session.statement.state.next
  closed_iff : session.statement.state = .closed ↔ Request.close ∈ requests
  /-- which of its texts a deferred statement prepares is up to the request, also where the two are one text -/
  leaves (request : Request) : session.statement.state = .deferred →
    request.LeadsTo sql settings (request.answer client.journaled session).2.statement.state
  deferred : session.statement.state = .deferred → Journal.prepared (sessionJournal session) = []
  voided : session.statement.state = .voided → Journal.prepared (sessionJournal session) = [sql]
  bulkExecuted : session.statement.state = .bulkExecuted →
    ∃ bulk, IsBulkForm sql settings bulk ∧ Journal.prepared (sessionJournal session) = [bulk.sql]
  /-- after a bulk execution the client is asked for nothing but closing -/
  rests (request : Request) : session.statement.state = .bulkExecuted → request ≠ .close →
    sessionJournal (request.answer client.journaled session).2 = sessionJournal session
  /-- a closed statement refuses everything but closing, and asks the client for nothing -/
  shut (request : Request) : Request.close ∈ requests → request ≠ .close →
    request.answer client.journaled session = (.error .closed, session)
  /-- what was prepared is closed once, at the end -/
  released : Request.close ∈ requests → Journal.prepared (sessionJournal session) ≠ [] →
    ∃ before answer, sessionJournal session = before ++ [.close answer] ∧ ∀ call ∈ before, call.isClose = false

theorem exists_closed {phase : Phase Handle} (closed : phase.state = .closed) : phase = .closed := by
  cases phase with
  | closed => rfl
  | _ => cases closed

theorem Lives.lived {requests : List Request} (lives : Lives sql settings session.statement (sessionJournal session))
    (closed_iff : session.statement.state = .closed ↔ Request.close ∈ requests) :
    Lived client sql settings requests session := by
  have told := lives.prepared
  constructor
  · cases state : session.statement.state with
    | deferred =>
      rw [state] at told
      rw [told]
      exact Nat.zero_le 1
    | voided =>
      rw [state] at told
      exact Nat.le_of_eq (congrArg List.length told)
    | bulkExecuted =>
      rw [state] at told
      obtain ⟨bulk, -, once⟩ := told
      exact Nat.le_of_eq (congrArg List.length once)
    | closed =>
      rw [state] at told
      rcases told with never | ⟨text, before, answer, once, -⟩
      · rw [never]
        exact Nat.zero_le 1
      · exact Nat.le_of_eq (congrArg List.length once)
  · exact fun request => (lives.answer client request).2.1
  · exact closed_iff
  · exact fun request => (lives.answer client request).2.2.2
  · intro state
    rwa [state] at told
  · intro state
    rwa [state] at told
  · intro state
    rwa [state] at told
  · intro request state opened
    obtain ⟨handle, phase⟩ := exists_bulkExecuted state
    obtain ⟨statement, ran, -⟩ := answer_of_bulkExecuted client.journaled phase opened
    rw [ran]
    rfl
  · intro request closing opened
    exact answer_of_closed (exists_closed (closed_iff.mpr closing)) opened
  · intro closing some_
    rw [closed_iff.mpr closing] at told
    rcases told with never | ⟨text, before, answer, -, ends, open_⟩
    · exact absurd never some_
    · exact ⟨before, answer, ends, open_⟩

/-- Until a statement is closed, it is deferred as long as it has prepared nothing. -/
theorem Lived.deferred_iff {requests : List Request} (lived : Lived client sql settings requests session)
    (opened : .close ∉ requests) :
    session.statement.state = .deferred ↔ Journal.prepared (sessionJournal session) = [] := by
  refine ⟨lived.deferred, fun never => ?_⟩
  cases state : session.statement.state with
  | deferred => rfl
  | voided => exact absurd (never.symm.trans (lived.voided state)) (by simp)
  | bulkExecuted =>
    obtain ⟨bulk, -, prepared⟩ := lived.bulkExecuted state
    exact absurd (never.symm.trans prepared) (by simp)
  | closed => exact absurd (lived.closed_iff.mp state) opened

/-- Until a statement is closed, what it has prepared tells its state, if its bulk form is another text than its own. -/
theorem Lived.state_iff {requests : List Request} (lived : Lived client sql settings requests session)
    (opened : .close ∉ requests) (distinct : ∀ bulk, IsBulkForm sql settings bulk → bulk.sql ≠ sql) :
    (session.statement.state = .voided ↔ sql ∈ Journal.prepared (sessionJournal session)) ∧
      (session.statement.state = .bulkExecuted ↔
        ∃ bulk, IsBulkForm sql settings bulk ∧ bulk.sql ∈ Journal.prepared (sessionJournal session)) := by
  cases state : session.statement.state with
  | deferred =>
    rw [lived.deferred state]
    simp
  | voided =>
    rw [lived.voided state]
    refine ⟨by simp, iff_of_false (by simp) ?_⟩
    rintro ⟨bulk, form, prepared⟩
    exact distinct bulk form (List.mem_singleton.mp prepared)
  | bulkExecuted =>
    obtain ⟨bulk, form, prepared⟩ := lived.bulkExecuted state
    rw [prepared]
    refine ⟨iff_of_false (by simp) ?_, iff_of_true rfl ⟨bulk, form, List.mem_singleton_self _⟩⟩
    intro own
    exact distinct bulk form (List.mem_singleton.mp own).symm
  | closed => exact absurd (lived.closed_iff.mp state) opened

/-- In names that settings may have, no bulk form is the statement's own text. -/
theorem IsBulkForm.ne (named : Setting.name? settings.derived.name = some settings.derived.name)
    (stem : Setting.name? settings.derived.columnStem = some settings.derived.columnStem) {bulk : BulkStatement}
    (form : IsBulkForm sql settings bulk) : bulk.sql ≠ sql := by
  obtain ⟨⟨kind, -, -, formed⟩, positive⟩ := form
  exact Bulk.form_ne (Bulk.isBareWord_of_name? named) (Bulk.isBareWord_of_name? stem) formed
    (Nat.pos_iff_ne_zero.mp positive)

/-- The life of a statement from its beginning, whatever is requested of it and whatever its client refuses. Until it is
closed, what it has prepared tells whether it is deferred; it tells the state as well, unless the bulk form is the
statement's own text, which takes names that settings may not have. -/
theorem lived_of_requests (connection : Connection) (sql : Text) (settings : Settings) (requests : List Request) :
    let fresh : JournaledSession Connection Handle Rows :=
      { connection := (connection, []), statement := { sql, settings } }
    let session := (Request.answerAll client.journaled fresh requests).2
    Lived client sql settings requests session ∧
      (.close ∉ requests →
        (session.statement.state = .deferred ↔ Journal.prepared (sessionJournal session) = []) ∧
        ((∀ bulk, IsBulkForm sql settings bulk → bulk.sql ≠ sql) →
          (session.statement.state = .voided ↔ sql ∈ Journal.prepared (sessionJournal session)) ∧
          (session.statement.state = .bulkExecuted ↔
            ∃ bulk, IsBulkForm sql settings bulk ∧ bulk.sql ∈ Journal.prepared (sessionJournal session)))) ∧
      (Setting.name? settings.derived.name = some settings.derived.name →
        Setting.name? settings.derived.columnStem = some settings.derived.columnStem →
        ∀ bulk, IsBulkForm sql settings bulk → bulk.sql ≠ sql) := by
  intro fresh session
  have begins : Lives sql settings fresh.statement (sessionJournal fresh) :=
    .deferred (holds_nil sql settings) (List.forall_mem_nil _)
  obtain ⟨lives, closed⟩ := begins.answerAll client requests
  have lived : Lived client sql settings requests session := by
    refine lives.lived client (closed.trans (or_iff_right ?_))
    simp [fresh, DeferredStatement.state, Phase.state]
  refine ⟨lived, fun opened => ⟨lived.deferred_iff client opened, lived.state_iff client opened⟩, ?_⟩
  exact fun named stem bulk => IsBulkForm.ne named stem

/-- A row is executed in bulk, and clearing is all that is left to it. -/
theorem lived_of_requests_insert :
    let sql : Text := "insert into t (a) values (?)".toList
    let requests : List Request := [.setValue 1 (.int 5), .addBatch, .executeBatch, .setValue 1 (.int 6), .clearBatch]
    let fresh : JournaledSession Unit Unit Unit := { connection := ((), []), statement := { sql, settings := {} } }
    let session := (Request.answerAll compliantClient.journaled fresh requests).2
    session.statement.state = .bulkExecuted ∧ sql ∉ Journal.prepared (sessionJournal session) ∧
      ∃ bulk, IsBulkForm sql {} bulk ∧ Journal.prepared (sessionJournal session) = [bulk.sql] := by
  intro sql requests fresh session
  have state : session.statement.state = .bulkExecuted := by decide +kernel
  obtain ⟨lived, told, distinct⟩ := lived_of_requests compliantClient () sql {} requests
  obtain ⟨-, states⟩ := told (by simp [requests])
  obtain ⟨voided, -⟩ := states (distinct (by decide) (by decide))
  refine ⟨state, fun own => ?_, lived.bulkExecuted state⟩
  exact absurd (state.symm.trans (voided.mpr own)) (by decide)

/-- A derived table's name that begins a comment makes a text its own bulk form: the comment hides all of the form from
the name's first place to its second. The one text is then prepared for either of two states. -/
theorem one_text_for_two_states :
    let sql : Text := "UPDATE t SET a = ? /*/.p1 FROM (SELECT unnest(?) AS p1) AS ? /*/ WHERE t.b = 1".toList
    let settings : Settings := { derived := { name := "? /*/".toList } }
    let fresh : JournaledSession Unit Unit Unit := { connection := ((), []), statement := { sql, settings } }
    let voided := (Request.answerAll compliantClient.journaled fresh [.executeUpdate]).2
    let executed := (Request.answerAll compliantClient.journaled fresh
      [.setValue 1 (.int 5), .addBatch, .executeBatch]).2
    IsBulkForm sql settings ⟨sql, 1⟩ ∧
      ¬(voided.statement.state = .bulkExecuted ↔
        ∃ bulk, IsBulkForm sql settings bulk ∧ bulk.sql ∈ Journal.prepared (sessionJournal voided)) ∧
      ¬(executed.statement.state = .voided ↔ sql ∈ Journal.prepared (sessionJournal executed)) := by
  intro sql settings fresh voided executed
  have form : IsBulkForm sql settings ⟨sql, 1⟩ :=
    (DeferredStatement.bulk?_eq_some_iff fresh.statement ⟨sql, 1⟩).mp (by decide +kernel)
  have preparedVoided : Journal.prepared (sessionJournal voided) = [sql] := by decide +kernel
  have preparedExecuted : Journal.prepared (sessionJournal executed) = [sql] := by decide +kernel
  have stateVoided : voided.statement.state = .voided := by decide +kernel
  have stateExecuted : executed.statement.state = .bulkExecuted := by decide +kernel
  refine ⟨form, fun tells => ?_, fun tells => ?_⟩
  · have asBulk := tells.mpr ⟨⟨sql, 1⟩, form, by rw [preparedVoided]; exact List.mem_singleton_self sql⟩
    exact absurd (stateVoided.symm.trans asBulk) (by decide)
  · have asOwn := tells.mpr (by rw [preparedExecuted]; exact List.mem_singleton_self sql)
    exact absurd (stateExecuted.symm.trans asOwn) (by decide)

end Deferred

end BulkSql
