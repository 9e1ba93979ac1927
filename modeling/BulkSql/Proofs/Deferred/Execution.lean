import BulkSql.Proofs.Deferred.Building

/-! # Executing kept rows

Executing a batch delivers the rows of the plain list and nothing else: as one array for each column if the statement
has a bulk form for them, row by row otherwise.
-/

namespace BulkSql

/-- The bulk form of a statement whose kind is enabled: it has at least one parameter. -/
structure IsBulkForm (sql : Text) (settings : Settings) (bulk : BulkStatement) : Prop where
  detected : ∃ kind, StatementKind.detect? sql = some kind ∧ settings.isEnabled kind ∧
    Bulk.ofText settings.derived kind sql = .ok bulk
  parameters : 1 ≤ bulk.parameterCount

theorem DeferredStatement.bulk?_eq_some_iff {Handle : Type} (statement : DeferredStatement Handle)
    (bulk : BulkStatement) : statement.bulk? = some bulk ↔ IsBulkForm statement.sql statement.settings bulk := by
  unfold bulk?
  cases detected : StatementKind.detect? statement.sql with
  | none =>
    apply iff_of_false (by simp)
    rintro ⟨⟨kind, found, _⟩, _⟩
    simp [detected] at found
  | some kind =>
    rw [Option.bind_eq_bind, Option.bind_some]
    by_cases enabled : statement.settings.isEnabled kind
    · rw [if_pos enabled]
      cases form : Bulk.ofText statement.settings.derived kind statement.sql with
      | error error =>
        apply iff_of_false (by simp)
        rintro ⟨⟨other, found, _, formed⟩, _⟩
        obtain rfl := Option.some.inj (detected.symm.trans found)
        simp [form] at formed
      | ok found =>
        by_cases zero : found.parameterCount = 0
        · apply iff_of_false (by simp [zero])
          rintro ⟨⟨other, same, _, formed⟩, positive⟩
          obtain rfl := Option.some.inj (detected.symm.trans same)
          obtain rfl := Except.ok.inj (form.symm.trans formed)
          omega
        · simp only [zero, if_false, Option.some.injEq]
          constructor
          · rintro rfl
            exact ⟨⟨kind, detected, enabled, form⟩, Nat.one_le_iff_ne_zero.mpr zero⟩
          · rintro ⟨⟨other, same, _, formed⟩, _⟩
            obtain rfl := Option.some.inj (detected.symm.trans same)
            exact Except.ok.inj (form.symm.trans formed)
    · rw [if_neg enabled]
      apply iff_of_false (by simp)
      rintro ⟨⟨other, found, on, _⟩, _⟩
      obtain rfl := Option.some.inj (detected.symm.trans found)
      exact enabled on

namespace Journal

variable {Rows : Type}

/-- Values bound at indices. -/
def binds (entries : List (Nat × SqlValue)) : Journal Rows :=
  entries.map fun (index, value) => .bind index value (.ok ())

/-- A row of the prepared statement's own batch. -/
def row (values : List SqlValue) : Journal Rows :=
  binds ((values.zipIdx 1).map Prod.swap) ++ [.addBatch (.ok ())]

/-- An array of a column's values, bound at its index. -/
def column (column : Column) (index : Nat) (array : ArrayValue) : Journal Rows :=
  [.createArray column.type.name column.values (.ok array), .bind index (.ofArray array) (.ok ())]

/-- A bulk statement over one array for each column. -/
def bulk (sql : Text) (rows : PlainRows) (arrays : List ArrayValue) (affected : UInt64) : Journal Rows :=
  .prepare sql (.ok ()) :: (arrays.zipIdx.flatMap fun (array, place) =>
    [.createArray (rows.columnType place).name (rows.column place) (.ok array),
      .bind (place + 1) (.ofArray array) (.ok ())]) ++ [.executeUpdate (.ok affected)]

/-- A statement's own text over one row after the other. -/
def rowByRow (sql : Text) (plain : PlainBatch) (outcomes : List BatchOutcome) : Journal Rows :=
  .prepare sql (.ok ()) :: plain.rows.flatMap row ++ binds plain.pending.entries ++ [.executeBatch (.ok outcomes)]

end Journal

/-- What executing a batch asks of the client and answers if all that it asks for succeeds. -/
structure DeliversRows {Rows : Type} (sql : Text) (settings : Settings) (plain : PlainBatch) (calls : Journal Rows)
    (response : Except SqlError (Response Rows)) : Prop where
  bulk : ∀ bulk, IsBulkForm sql settings bulk → bulk.parameterCount = plain.rows.width →
    ∃ arrays affected, arrays.length = plain.rows.width ∧ calls = .bulk bulk.sql plain.rows arrays affected ∧
      response = .ok (.outcomes (.replicate plain.rows.length
        (if affected.toNat = plain.rows.length then .noInfo else .failed)))
  misfit : ∀ bulk, IsBulkForm sql settings bulk → bulk.parameterCount ≠ plain.rows.width →
    calls = [] ∧ response = .error (.batchShape bulk.parameterCount plain.rows.width)
  rowByRow : (∀ bulk, ¬IsBulkForm sql settings bulk) →
    ∃ outcomes, calls = .rowByRow sql plain outcomes ∧ response = .ok (.outcomes outcomes)

namespace Client

variable {Connection Handle Rows : Type} (client : Client Connection Handle Rows)
  {state : (Connection × Journal Rows) × Handle}

open Deferred

theorem performs_bind (index : Nat) (value : SqlValue) :
    Performs handleJournal (client.journaled.bind index value) state fun _ _ calls =>
      calls = [.bind index value (.ok ())] :=
  performs_notedOnHandle fun _ => rfl

theorem performs_bindRow (row : List SqlValue) :
    Performs handleJournal (client.journaled.bindRow row) state fun _ _ calls =>
      calls = Journal.binds ((row.zipIdx 1).map Prod.swap) := by
  apply (performs_forM_const (fun pair _ => client.performs_bind pair.2 pair.1) _).mono
  intro _ _ calls same
  rw [same, ← List.map_eq_flatMap, Journal.binds, List.map_map]
  rfl

theorem performs_addRows (rows : List (List SqlValue)) :
    Performs handleJournal (client.journaled.addRows rows) state fun _ _ calls => calls = rows.flatMap Journal.row := by
  refine performs_forM_const (fun row _ => (client.performs_bindRow row).bind fun _ after calls bound => ?_) rows
  have added : Performs handleJournal client.journaled.addBatch after fun _ _ calls => calls = [.addBatch (.ok ())] :=
    performs_notedOnHandle fun _ => rfl
  exact added.mono fun _ _ more same => by rw [bound, same, Journal.row]

theorem performs_bindRecords (records : List ParameterRecord) :
    Performs handleJournal (client.journaled.bindRecords records) state fun _ _ calls =>
      calls = Journal.binds (records.map fun record => (record.index, record.value)) := by
  refine (performs_forM_const (fun record _ => client.performs_bind record.index record.value) _).mono
    fun _ _ calls same => ?_
  rw [same, ← List.map_eq_flatMap, Journal.binds, List.map_map]
  rfl

end Client

namespace Deferred

variable {Connection Handle Rows : Type} (client : Client Connection Handle Rows)
  {session : JournaledSession Connection Handle Rows}

theorem performs_prepare (sql : Text) :
    Performs sessionJournal (onConnection (client.journaled.prepare sql)) session fun _ after calls =>
      after.statement = session.statement ∧ calls = [.prepare sql (.ok ())] := by
  have faithful (answer : Except SqlError Handle) :
      (ClientCall.prepare sql (answer.map fun _ => ()) : ClientCall Rows).succeeded = answer.isOk := by
    cases answer <;> rfl
  exact performs_onConnection faithful

/-- Rows come first, each as a row of the prepared statement's own batch, then the kept values are bound. -/
theorem performs_load {handle : Handle} (voided : session.statement.phase = .voided handle)
    (rows : List (List SqlValue)) :
    Performs sessionJournal (load client.journaled rows) session fun _ after calls =>
      (∃ last, after.statement = { session.statement with phase := .voided last, bindings := {} }) ∧
        calls = rows.flatMap Journal.row ++
          Journal.binds (session.statement.bindings.records.map fun record => (record.index, record.value)) := by
  refine (performs_onHandle (by rw [voided]; rfl) (client.performs_addRows rows)).bind
    fun _ added calls ⟨last, same, rowCalls⟩ => performs_bind_of_silent rfl rfl ?_
  refine (performs_modifyStatement _).bind fun _ cleared _ ⟨without, silent⟩ => ?_
  rw [same, voided] at without
  have prepared : cleared.statement.phase.handle? = some last := by rw [without]; rfl
  refine (performs_onHandle prepared (client.performs_bindRecords _)).mono
    fun _ loaded more ⟨final, held, bindCalls⟩ => ⟨⟨final, ?_⟩, ?_⟩
  · rw [held, without]
    rfl
  · rw [rowCalls, silent, bindCalls, same]
    rfl

/-- The row-by-row execution of what a statement keeps. -/
theorem performs_executeRows :
    Performs sessionJournal (executeRows client.journaled) session fun outcomes _ calls =>
      calls = .prepare session.statement.sql (.ok ()) :: session.statement.batch.valueRows.flatMap Journal.row ++
        Journal.binds (session.statement.bindings.records.map fun record => (record.index, record.value)) ++
          [.executeBatch (.ok outcomes)] := by
  refine performs_bind_of_silent rfl rfl ?_
  refine (performs_modifyStatement _).bind fun _ taken _ ⟨empty, silent⟩ => ?_
  refine (performs_prepare client _).bind fun handle prepared _ ⟨same, prepareCalls⟩ => ?_
  refine (performs_modifyStatement _).bind fun _ voided _ ⟨phase, silent'⟩ => ?_
  rw [same, empty] at phase
  have isVoided : voided.statement.phase = .voided handle := by rw [phase]
  refine (performs_load client isVoided _).bind fun _ loaded calls ⟨⟨last, held⟩, loadCalls⟩ => ?_
  have executes : Performs handleJournal client.journaled.executeBatch (loaded.connection, last) fun outcomes _ calls =>
      calls = [.executeBatch (.ok outcomes)] := performs_notedOnHandle fun _ => rfl
  refine (performs_onHandle (by rw [held]; rfl) executes).mono fun outcomes _ more ⟨_, _, executeCalls⟩ => ?_
  rw [silent, prepareCalls, silent', loadCalls, executeCalls, phase]
  simp only [List.nil_append, List.cons_append, List.append_assoc]

theorem performs_bindColumn (started : ∃ handle, session.statement.phase = .bulkExecuted handle) (column : Column)
    (index : Nat) :
    Performs sessionJournal (do
        let array ← onConnection (client.journaled.createArray column.type.name column.values)
        onHandle (client.journaled.bind index (.ofArray array)) : SessionCall (Connection × Journal Rows) Handle Unit)
      session fun _ after calls => (∃ last, after.statement.phase = .bulkExecuted last) ∧
        ∃ array, calls = Journal.column column index array := by
  have creates : Performs sessionJournal
      (onConnection (client.journaled.createArray column.type.name column.values)) session fun array after calls =>
        after.statement = session.statement ∧ calls = [.createArray column.type.name column.values (.ok array)] :=
    performs_onConnection fun _ => rfl
  obtain ⟨handle, prepared⟩ := started
  refine creates.bind fun array created _ ⟨same, createCalls⟩ => ?_
  have still : created.statement.phase.handle? = some handle := by rw [same, prepared]; rfl
  refine (performs_onHandle still (client.performs_bind index (.ofArray array))).mono
    fun _ bound more ⟨last, held, bindCalls⟩ => ⟨⟨last, ?_⟩, array, ?_⟩
  · rw [held, same, prepared]
    rfl
  · rw [createCalls, bindCalls]
    rfl

theorem performs_bindColumns (started : ∃ handle, session.statement.phase = .bulkExecuted handle)
    (columns : List Column) :
    Performs sessionJournal (bindColumns client.journaled columns) session fun _ after calls =>
      (∃ last, after.statement.phase = .bulkExecuted last) ∧ ∃ arrays, arrays.length = columns.length ∧
        calls = (List.zipWith (fun pair array => Journal.column pair.1 pair.2 array) (columns.zipIdx 1) arrays).flatten := by
  have each (pair : Column × Nat) (state : JournaledSession Connection Handle Rows)
      (started : ∃ handle, state.statement.phase = .bulkExecuted handle) :=
    performs_bindColumn client started pair.1 pair.2
  have all := performs_forM each (columns.zipIdx 1) started
  rw [List.length_zipIdx] at all
  exact all

/-- The bulk execution of what a statement keeps, if it has as many columns as the bulk form has parameters. -/
theorem performs_executeBulk {bulk : BulkStatement}
    (fits : session.statement.batch.columns.length = bulk.parameterCount) :
    Performs sessionJournal (executeBulk client.journaled bulk) session fun outcomes _ calls =>
      ∃ arrays affected, arrays.length = session.statement.batch.columns.length ∧
        calls = .prepare bulk.sql (.ok ()) :: (List.zipWith (fun pair array => Journal.column pair.1 pair.2 array)
          (session.statement.batch.columns.zipIdx 1) arrays).flatten ++ [.executeUpdate (.ok affected)] ∧
        outcomes = .replicate session.statement.batch.rows
          (if affected.toNat = session.statement.batch.rows then .noInfo else .failed) := by
  refine performs_bind_of_silent rfl rfl ?_
  refine (performs_modifyStatement _).bind fun _ taken _ ⟨empty, silent⟩ => ?_
  rw [if_neg (not_not.mpr fits)]
  refine (performs_prepare client _).bind fun handle prepared _ ⟨same, prepareCalls⟩ => ?_
  refine (performs_modifyStatement _).bind fun _ started _ ⟨phase, silent'⟩ => ?_
  have isStarted : ∃ handle, started.statement.phase = .bulkExecuted handle := ⟨handle, by rw [phase]⟩
  refine (performs_bindColumns client isStarted _).bind
    fun _ bound calls ⟨⟨last, held⟩, arrays, counted, bindCalls⟩ => ?_
  have executes : Performs handleJournal client.journaled.executeUpdate (bound.connection, last) fun affected _ calls =>
      calls = [.executeUpdate (.ok affected)] := performs_notedOnHandle fun _ => rfl
  refine (performs_onHandle (by rw [held]; rfl) executes).bind fun affected _ more ⟨_, _, executeCalls⟩ => ?_
  refine performs_pure ⟨arrays, affected, counted, ?_, rfl⟩
  · rw [silent, prepareCalls, silent', bindCalls, executeCalls]
    simp only [List.nil_append, List.cons_append, List.append_nil]

/-- The columns of a batch, read as the columns of its rows. -/
theorem zipWith_column_eq {batch : ColumnBatch} {rows : PlainRows} (same : batch.Represents rows)
    (arrays : List ArrayValue) (counted : arrays.length = batch.columns.length) :
    List.zipWith (fun pair array => (Journal.column pair.1 pair.2 array : Journal Rows)) (batch.columns.zipIdx 1)
        arrays =
      arrays.zipIdx.map fun (array, place) =>
        [.createArray (rows.columnType place).name (rows.column place) (.ok array),
          .bind (place + 1) (.ofArray array) (.ok ())] := by
  apply List.ext_getElem?
  intro place
  rw [List.getElem?_zipWith, List.getElem?_zipIdx, List.getElem?_map, List.getElem?_zipIdx]
  cases here : arrays[place]? with
  | none =>
    have outside : batch.columns[place]? = none :=
      List.getElem?_eq_none (counted ▸ List.getElem?_eq_none_iff.mp here)
    rw [outside]
    rfl
  | some array =>
    have inside : place < batch.columns.length := counted ▸ (List.getElem?_eq_some_iff.mp here).1
    have column := List.getElem?_eq_getElem inside
    rw [column, Option.map_some, Option.map_some, Option.map_some, Nat.zero_add, Nat.add_comm 1]
    simp only [Journal.column, same.columnType_eq column, (same.column _ _ column).1]

variable {sql : Text} {settings : Settings} {plain : PlainBatch}

theorem Holds.executeRows_delivers (holds : Holds session.statement sql settings plain) :
    Performs sessionJournal (executeRows client.journaled) session fun outcomes _ calls =>
      calls = .rowByRow sql plain outcomes := by
  apply (performs_executeRows client).mono
  intro outcomes _ calls same
  rw [same, holds.sql, holds.batch.valueRows_eq, holds.bindings.records_eq, List.map_map, Journal.rowByRow]
  congr 3
  exact List.map_id _

theorem Holds.executeBulk_delivers (holds : Holds session.statement sql settings plain) {bulk : BulkStatement}
    (fits : bulk.parameterCount = plain.rows.width) :
    Performs sessionJournal (executeBulk client.journaled bulk) session fun outcomes _ calls =>
      ∃ arrays affected, arrays.length = plain.rows.width ∧ calls = .bulk bulk.sql plain.rows arrays affected ∧
        outcomes = .replicate plain.rows.length (if affected.toNat = plain.rows.length then .noInfo else .failed) := by
  have width : session.statement.batch.columns.length = bulk.parameterCount := by rw [holds.batch.width, fits]
  refine (performs_executeBulk client width).mono fun outcomes _ calls ⟨arrays, affected, counted, asked, answer⟩ => ?_
  refine ⟨arrays, affected, by rw [counted, holds.batch.width], ?_, by rw [answer, holds.batch.count]⟩
  rw [asked, zipWith_column_eq holds.batch arrays counted, Journal.bulk, List.flatMap_def]

/-- Rows that do not fill the bulk form are refused before the client is asked for anything. -/
theorem Holds.executeBulk_refused (holds : Holds session.statement sql settings plain) {bulk : BulkStatement}
    (misfit : bulk.parameterCount ≠ plain.rows.width) :
    Call.on (executeBulk client.journaled bulk) session =
      (.error (.batchShape bulk.parameterCount plain.rows.width),
        { session with statement := { session.statement with batch := {} } }) := by
  rw [executeBulk, Call.on_bind_ok (Call.on_get session)]
  dsimp only
  rw [if_pos (by rw [holds.batch.width]; exact misfit.symm), ← holds.batch.width]
  rfl

theorem Holds.batch_isEmpty (holds : Holds session.statement sql settings plain) (started : plain.rows ≠ []) :
    session.statement.batch.isEmpty = false := by
  rw [ColumnBatch.isEmpty, holds.batch.count, beq_eq_false_iff_ne]
  exact Nat.ne_of_gt (List.length_pos_of_ne_nil started)

/-- If all calls succeed, executing kept rows delivers those of the plain list. -/
theorem Holds.executeBatch_delivers (holds : Holds session.statement sql settings plain) (started : plain.rows ≠ [])
    (fresh : sessionJournal session = []) {response : Except SqlError (Response Rows)}
    {after : JournaledSession Connection Handle Rows}
    (executed : Request.answer client.journaled session .executeBatch = (response, after))
    (succeeded : ∀ asked ∈ sessionJournal after, asked.succeeded) :
    DeliversRows sql settings plain (sessionJournal after) response := by
  have isForm (bulk : BulkStatement) : session.statement.bulk? = some bulk ↔ IsBulkForm sql settings bulk := by
    rw [DeferredStatement.bulk?_eq_some_iff, holds.sql, holds.settings]
  have answered : (((Deferred.executeBatch client.journaled).on session).1.map .outcomes,
      ((Deferred.executeBatch client.journaled).on session).2) = (response, after) :=
    (Call.on_bind_pure ..).symm.trans executed
  rw [on_executeBatch_of_deferred client.journaled holds.phase, holds.batch_isEmpty started,
    if_neg Bool.false_ne_true] at answered
  obtain ⟨rfl, rfl⟩ := Prod.mk.inj answered
  cases form : session.statement.bulk? with
  | none =>
    rw [form] at succeeded
    have noForm : ∀ bulk, ¬IsBulkForm sql settings bulk := fun bulk is => by simp [(isForm bulk).mpr is] at form
    obtain ⟨outcomes, answer, calls⟩ := (holds.executeRows_delivers client).answered fresh succeeded
    exact ⟨fun bulk is => (noForm bulk is).elim, fun bulk is => (noForm bulk is).elim,
      fun _ => ⟨outcomes, calls, congrArg (Except.map _) answer⟩⟩
  | some bulk =>
    rw [form] at succeeded
    have only : ∀ other, IsBulkForm sql settings other → other = bulk := fun other is =>
      Option.some.inj (((isForm other).mpr is).symm.trans form)
    have isBulk := (isForm bulk).mp form
    refine ⟨fun other is fits => ?_, fun other is misfit => ?_, fun noForm => (noForm bulk isBulk).elim⟩
    · obtain rfl := only other is
      obtain ⟨outcomes, answer, arrays, affected, counted, calls, same⟩ :=
        (holds.executeBulk_delivers client fits).answered fresh succeeded
      exact ⟨arrays, affected, counted, calls, by rw [answer, ← same]; rfl⟩
    · obtain rfl := only other is
      dsimp only
      rw [holds.executeBulk_refused client misfit]
      exact ⟨fresh, rfl⟩

/-- A statement refines the plain list: whatever was bound, cleared and ended before, and whichever of these requests
were refused, executing its rows delivers the plain list's rows, and nothing was asked of the client until then. -/
theorem executeBatch_refines_plain (connection : Connection) (sql : Text) (settings : Settings)
    {requests : List Request} (kept : ∀ request ∈ requests, request.IsKept)
    (started : (requests.foldl PlainBatch.after {}).rows ≠ [])
    {responses : List (Except SqlError (Response Rows))} {built after : JournaledSession Connection Handle Rows}
    {response : Except SqlError (Response Rows)}
    (building : Request.answerAll client.journaled { connection := (connection, []), statement := { sql, settings } }
      requests = (responses, built))
    (executed : Request.answer client.journaled built .executeBatch = (response, after)) :
    sessionJournal built = [] ∧ ((∀ asked ∈ sessionJournal after, asked.succeeded) →
      DeliversRows sql settings (requests.foldl PlainBatch.after {}) (sessionJournal after) response) := by
  have fresh : Holds ({ connection := (connection, []), statement := { sql, settings } } :
      JournaledSession Connection Handle Rows).statement sql settings {} := holds_nil sql settings
  obtain ⟨others, statement, ran, holds⟩ := fresh.answerAll client.journaled kept
  obtain ⟨rfl, rfl⟩ := Prod.mk.inj (ran.symm.trans building)
  exact ⟨rfl, fun succeeded => holds.executeBatch_delivers client started rfl executed succeeded⟩

/-- A client on which every call succeeds. -/
def compliantClient : Client Unit Unit Unit where
  prepare _ := pure ()
  createArray _ values := pure { element := .int4, elements := values }
  bind _ _ := pure ()
  bindStream _ _ := pure ()
  bindForeign _ := pure ()
  clearParameters := pure ()
  addBatch := pure ()
  clearBatch := pure ()
  executeBatch := pure []
  executeUpdate := pure 1
  executeQuery := pure ()
  parameterTypes := pure []
  close _ := pure ()

/-- A gap is refused, the second row has a value of its own type, and the third does not fit it. -/
theorem executeBatch_refines_plain_insert :
    let sql : Text := "insert into t (a) values (?)".toList
    let requests : List Request := [.setValue 2 (.int 5), .addBatch, .setNull 1 .unknown, .addBatch, .setValue 1 (.int 7),
      .addBatch, .setValue 1 (.bool true), .addBatch]
    let session : JournaledSession Unit Unit Unit := { connection := ((), []), statement := { sql, settings := {} } }
    let built := (Request.answerAll compliantClient.journaled session requests).2
    let executed := Request.answer compliantClient.journaled built .executeBatch
    (requests.foldl PlainBatch.after {}).rows.length = 2 ∧ sessionJournal built = [] ∧
      (sessionJournal executed.2).length = 4 ∧
      DeliversRows sql {} (requests.foldl PlainBatch.after {}) (sessionJournal executed.2) executed.1 := by
  intro sql requests session built executed
  have kept : ∀ request ∈ requests, request.IsKept := by simp [requests, Request.IsKept]
  have two : (requests.foldl PlainBatch.after {}).rows.length = 2 := by decide +kernel
  have started : (requests.foldl PlainBatch.after {}).rows ≠ [] := List.ne_nil_of_length_pos (by rw [two]; decide)
  have succeeded : (sessionJournal executed.2).all ClientCall.succeeded = true := by decide +kernel
  obtain ⟨silent, delivers⟩ := executeBatch_refines_plain compliantClient () sql {} kept started
    (Prod.mk.eta (p := Request.answerAll compliantClient.journaled session requests)).symm
    (Prod.mk.eta (p := executed)).symm
  exact ⟨two, silent, by decide +kernel, delivers (List.all_eq_true.mp succeeded)⟩

end Deferred

end BulkSql
