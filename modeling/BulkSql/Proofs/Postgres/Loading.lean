import BulkSql.Proofs.Deferred.Serving
import BulkSql.Proofs.Deferred.Transparency

/-! # Loading a prepared statement

A server's statement that was just prepared takes over rows of one width and values by index. It takes exactly rows of
its own width and indices of its own parameters. Rows of another width are refused at the first one, before the batch
has any. Whatever a statement is used for until it is executed, its slots have what was bound last, its batch has rows
that were complete when they were ended, and a use that fails leaves no trace.
-/

namespace BulkSql

namespace ParameterSlots

/-! ## Values at other indices -/

/-- Values are all bound exactly if their indices are those of slots. -/
theorem isOk_bindAll_iff (slots : ParameterSlots) (values : List (Nat × SqlValue)) :
    (slots.bindAll values).isOk ↔ ∀ entry ∈ values, 0 < entry.1 ∧ entry.1 ≤ slots.slots.length := by
  induction values generalizing slots with
  | nil => exact iff_of_true rfl (List.forall_mem_nil _)
  | cons entry values ih =>
    obtain ⟨index, value⟩ := entry
    rw [List.forall_mem_cons, bindAll, List.foldlM_cons]
    dsimp only
    by_cases inside : 0 < index ∧ index ≤ slots.slots.length
    · rw [bind_of_inside inside, and_iff_right inside]
      refine (ih _).trans ?_
      rw [List.length_set]
    · rw [bind, if_neg inside]
      exact iff_of_false Bool.false_ne_true fun all => inside all.1

theorem bindAll_append (slots : ParameterSlots) (values others : List (Nat × SqlValue)) :
    slots.bindAll (values ++ others) = slots.bindAll values >>= fun slots => slots.bindAll others :=
  List.foldlM_append

/-- The values of a row that is too wide are refused at the first index behind the slots. -/
theorem bindAll_of_wider {slots : ParameterSlots} {row : List SqlValue} (wider : slots.slots.length < row.length) :
    slots.bindAll (numbered row) = .error (outOfRange (slots.slots.length + 1) slots.slots.length) := by
  have split : numbered row = numbered (row.take slots.slots.length) ++
      (slots.slots.length + 1, row[slots.slots.length]) ::
        ((row.drop (slots.slots.length + 1)).zipIdx (slots.slots.length + 2)).map Prod.swap := by
    have parts : row = row.take slots.slots.length ++ row[slots.slots.length] :: row.drop (slots.slots.length + 1) := by
      rw [← List.drop_eq_getElem_cons wider, List.take_append_drop]
    have width : (row.take slots.slots.length).length = slots.slots.length := by
      rw [List.length_take]
      omega
    conv_lhs => rw [parts, numbered, List.zipIdx_append, List.map_append, width, List.zipIdx_cons, List.map_cons]
    rw [numbered, Nat.add_comm 1]
    rfl
  have inside : ∀ entry ∈ numbered (row.take slots.slots.length), 0 < entry.1 ∧ entry.1 ≤ slots.slots.length := by
    intro entry member
    have bounds := mem_numbered_bounds member
    rw [List.length_take] at bounds
    omega
  have outside : ¬(0 < slots.slots.length + 1 ∧ slots.slots.length + 1 ≤ slots.slots.length) := by omega
  rw [split, bindAll_append, bindAll_of_pairwise (pairwise_numbered _) inside]
  change bind _ _ _ >>= _ = _
  rw [bind, length_overlay, if_neg outside]
  rfl

/-- Of slots that are bound up to a place the next one is reported. -/
theorem valuesFrom_of_prefix (index : Nat) (row : List SqlValue) (slots : List (Option SqlValue)) :
    valuesFrom index (row.map some ++ none :: slots) = .error (.missingParameter (index + row.length)) := by
  induction row generalizing index with
  | nil => rfl
  | cons value row ih =>
    rw [List.map_cons, List.cons_append, valuesFrom, ih, List.length_cons, Nat.add_assoc, Nat.add_comm 1]
    rfl

/-- The values of a row that is too narrow leave the slots behind it empty. -/
theorem overlay_of_narrower {row : List SqlValue} {count : Nat} (narrower : row.length < count) :
    overlay (numbered row) (List.replicate count none) =
      row.map some ++ none :: List.replicate (count - row.length - 1) none := by
  have behind : none :: List.replicate (count - row.length - 1) none =
      List.replicate (count - row.length) (none : Option SqlValue) := by
    rw [← List.replicate_succ]
    congr 1
    omega
  rw [behind]
  apply List.ext_getElem?
  intro place
  rw [getElem?_overlay, lookup_numbered, List.getElem?_replicate, List.getElem?_append, List.length_map,
    List.getElem?_map, List.getElem?_replicate]
  by_cases inside : place < row.length
  · rw [if_pos inside, if_pos (Nat.lt_trans inside narrower), List.getElem?_eq_getElem inside]
    rfl
  · rw [if_neg inside, List.getElem?_eq_none (Nat.le_of_not_lt inside)]
    by_cases held : place < count
    · rw [if_pos held, if_pos (by omega)]
      rfl
    · rw [if_neg held, if_neg (by omega)]
      rfl

/-- A row of another width is refused by slots that are empty. -/
theorem addRow_of_width_ne {row : List SqlValue} {count : Nat} (other : row.length ≠ count) :
    (ofCount count).addRow row =
      .error (if row.length < count then .missingParameter (row.length + 1) else outOfRange (count + 1) count) := by
  have size : (ofCount count).slots.length = count := List.length_replicate
  rw [addRow]
  by_cases narrower : row.length < count
  · have inside : ∀ entry ∈ numbered row, 0 < entry.1 ∧ entry.1 ≤ (ofCount count).slots.length := by
      intro entry member
      have bounds := mem_numbered_bounds member
      omega
    rw [if_pos narrower, bindAll_of_pairwise (pairwise_numbered row) inside]
    change addBatch { slots := overlay (numbered row) (List.replicate count none), batch := _ } = _
    rw [overlay_of_narrower narrower, addBatch, ParameterSlots.row, valuesFrom_of_prefix, Nat.add_comm 1]
    rfl
  · rw [if_neg narrower, bindAll_of_wider (by omega), size]
    rfl

/-! ## Delivered values, place by place -/

theorem getElem?_lastRow {rows : List (List SqlValue)} {count : Nat} (wide : ∀ row ∈ rows, row.length = count)
    {place : Nat} (inside : place < count) :
    (lastRow rows (List.replicate count none))[place]? = some (rows.getLast?.bind (·[place]?)) := by
  unfold lastRow
  cases last : rows.getLast? with
  | none => exact List.getElem?_replicate_of_lt inside
  | some row =>
    have reached : place < row.length := (wide row (List.mem_of_getLast? last)).symm ▸ inside
    change (row.map some)[place]? = some row[place]?
    rw [List.getElem?_map, List.getElem?_eq_getElem reached]
    rfl

/-- What slots hold that were empty before rows and records were delivered. -/
theorem overlay_lastRow_eq {rows : List (List SqlValue)} {count : Nat} (wide : ∀ row ∈ rows, row.length = count)
    (records : List ParameterRecord) :
    overlay (ParameterRecord.entries records) (lastRow rows (List.replicate count none)) =
      (List.range count).map fun place =>
        ((records.find? (·.index == place + 1)).map (·.value)).or (rows.getLast?.bind (·[place]?)) := by
  have size := length_lastRow_replicate wide
  apply List.ext_getElem?
  intro place
  rw [getElem?_overlay, ParameterRecord.lookup_entries, List.getElem?_map]
  by_cases inside : place < count
  · rw [getElem?_lastRow wide inside, List.getElem?_range inside]
    rfl
  · rw [List.getElem?_eq_none (by omega), List.getElem?_eq_none (by rw [List.length_range]; omega)]
    rfl

end ParameterSlots

/-! ## A row that is refused -/

namespace PgServer

variable {Connection Name : Type} (server : PgServer Connection Name)

/-- The batch of the statement is as it was. -/
abbrev SameBatch : Connection × PgStatement Name → Connection × PgStatement Name → Prop :=
  Order.Preimage (fun state => state.2.slots.batch) (· = ·)

theorem keeps_bind (index : Nat) (value : SqlValue) : Call.Keeps SameBatch (server.client.bind index value) := by
  rintro ⟨connection, statement⟩
  change SameBatch _ (Call.on (modifySlots _) _).2
  rw [on_modifySlots, ParameterSlots.bind]
  split_ifs
  · exact rfl
  · exact rfl

/-- A statement that was just prepared refuses a row of another width. Its batch stays empty. -/
theorem on_addRows_of_width_ne {state : Connection × PgStatement Name} {count : Nat}
    (fresh : state.2.slots = .ofCount count) {row : List SqlValue} (other : row.length ≠ count)
    (rows : List (List SqlValue)) :
    ∃ after, (server.client.addRows (row :: rows)).on state = (.error (if row.length < count then
        .missingParameter (row.length + 1) else ParameterSlots.outOfRange (count + 1) count), after) ∧
      after.2.slots.batch = [] := by
  have answer := (((server.keepsSlots.bindRow row).seq server.keepsSlots.addBatch) state).1
  change _ = (ParameterSlots.addRow state.2.slots row).map _ at answer
  rw [fresh, ParameterSlots.addRow_of_width_ne other] at answer
  refine ⟨_, Call.on_bind_error (Prod.ext answer rfl) _, ?_⟩
  have kept : SameBatch state ((server.client.bindRow row).on state).2 :=
    Call.keeps_forM (fun pair : SqlValue × Nat => server.keeps_bind pair.2 pair.1) (row.zipIdx 1) state
  have empty : ((server.client.bindRow row).on state).2.2.slots.batch = [] := by
    refine kept.symm.trans ?_
    dsimp only
    rw [fresh]
    rfl
  rw [Call.on_bind] at answer ⊢
  rcases bound : (server.client.bindRow row).on state with ⟨_ | _, connection, statement⟩
  · rw [bound] at empty
    exact empty
  · rw [bound] at empty
    change (Call.on (modifySlots ParameterSlots.addBatch) _).2.2.slots.batch = []
    rw [bound] at answer
    change (Call.on (modifySlots ParameterSlots.addBatch) _).1 = _ at answer
    rw [on_modifySlots] at answer ⊢
    cases added : statement.slots.addBatch with
    | error => exact empty
    | ok =>
      rw [added] at answer
      cases answer

/-- Records are bound exactly if their indices are those of parameters, and then over what was bound before. -/
theorem on_bindRecords {records : List ParameterRecord} (sorted : records.Pairwise (·.index < ·.index))
    (state : Connection × PgStatement Name) :
    (((server.client.bindRecords records).on state).1.isOk ↔
      ∀ record ∈ records, 0 < record.index ∧ record.index ≤ state.2.slots.slots.length) ∧
    (((server.client.bindRecords records).on state).1.isOk → ((server.client.bindRecords records).on state).2.2.slots =
      { state.2.slots with slots := overlay (ParameterRecord.entries records) state.2.slots.slots }) := by
  obtain ⟨answer, bound⟩ := server.keepsSlots.bindRecords records state
  have inside : ((server.client.bindRecords records).on state).1.isOk ↔
      ∀ record ∈ records, 0 < record.index ∧ record.index ≤ state.2.slots.slots.length := by
    refine Iff.trans ?_
      ((state.2.slots.isOk_bindAll_iff (ParameterRecord.entries records)).trans List.forall_mem_map)
    rw [answer]
    dsimp only
    cases state.2.slots.bindAll (ParameterRecord.entries records) <;> rfl
  refine ⟨inside, fun succeeds => bound _ ?_⟩
  apply ParameterSlots.bindAll_of_pairwise
  · exact List.pairwise_map.mpr sorted
  · exact List.forall_mem_map.mpr (inside.mp succeeds)

end PgServer

/-! ## Uses without an execution -/

/-- A use of a prepared statement that does not execute it. -/
inductive StatementUse where
  | parameters (call : ParameterCall)
  | clearBatch

namespace StatementUse

def direct {Connection Handle Rows : Type} (client : Client Connection Handle Rows) :
    StatementUse → Call (Connection × Handle) Unit
  | parameters call => call.direct client
  | clearBatch => client.clearBatch

/-- What the use makes of slots. -/
def fill (slots : ParameterSlots) : StatementUse → Except SqlError ParameterSlots
  | parameters call => call.fill slots
  | clearBatch => .ok slots.clearBatch

/-- The value at a place after uses, the latest first: what was bound there last, if the parameters were not cleared
since then. -/
def valueAt (place : Nat) : List StatementUse → Option SqlValue
  | [] => none
  | parameters (.bind index value) :: earlier => if index = place + 1 then some value else valueAt place earlier
  | parameters .clearParameters :: _ => none
  | parameters .addBatch :: earlier | clearBatch :: earlier => valueAt place earlier

/-- The values of a number of parameters after uses, the latest first. -/
def values (count : Nat) (uses : List StatementUse) : List (Option SqlValue) :=
  (List.range count).map fun place => valueAt place uses

/-- The rows of a batch after uses, the latest first. Each end of a row since the batch was cleared added the values of
all parameters, if none was missing. -/
def rows (count : Nat) : List StatementUse → List (List SqlValue)
  | [] => []
  | parameters .addBatch :: earlier =>
    if (values count earlier).all Option.isSome then rows count earlier ++ [(values count earlier).filterMap id]
    else rows count earlier
  | parameters (.bind _ _) :: earlier | parameters .clearParameters :: earlier => rows count earlier
  | clearBatch :: _ => []

/-- Values none of which is missing. -/
theorem eq_map_some_of_all_isSome {values : List (Option SqlValue)} (full : values.all Option.isSome) :
    values = (values.filterMap id).map some := by
  induction values with
  | nil => rfl
  | cons value values ih =>
    obtain ⟨here, others⟩ := Bool.and_eq_true_iff.mp full
    obtain ⟨bound, rfl⟩ := Option.isSome_iff_exists.mp here
    rw [List.filterMap_cons_some (by rfl), List.map_cons, ← ih others]

theorem length_values (count : Nat) (uses : List StatementUse) : (values count uses).length = count := by
  rw [values, List.length_map, List.length_range]

/-- A row of the batch has the values that the statement had when the row was ended. -/
theorem eq_append_of_mem_rows {count : Nat} {uses : List StatementUse} {row : List SqlValue}
    (member : row ∈ rows count uses) :
    ∃ later earlier, uses = later ++ parameters .addBatch :: earlier ∧ values count earlier = row.map some := by
  induction uses with
  | nil => cases member
  | cons use earlier ih =>
    -- a row that was there before the use
    have before (known : row ∈ rows count earlier) :
        ∃ later first, use :: earlier = later ++ parameters .addBatch :: first ∧ values count first = row.map some := by
      obtain ⟨later, first, rfl, same⟩ := ih known
      exact ⟨use :: later, first, rfl, same⟩
    rcases use with (_ | _ | _) | _
    · exact before member
    · rw [rows] at member
      split at member
      · next full =>
        rcases List.mem_append.mp member with known | last
        · exact before known
        · rw [List.mem_singleton.mp last]
          exact ⟨[], earlier, rfl, eq_map_some_of_all_isSome full⟩
      · exact before member
    · exact before member
    · cases member

theorem values_bind (count : Nat) (earlier : List StatementUse) {index : Nat} (positive : 0 < index)
    (value : SqlValue) :
    values count (parameters (.bind index value) :: earlier) = (values count earlier).set (index - 1) (some value) := by
  apply List.ext_getElem?
  intro place
  rw [List.getElem?_set, length_values, values, values, List.getElem?_map, List.getElem?_map]
  by_cases inside : place < count
  · rw [List.getElem?_range inside, Option.map_some, Option.map_some, valueAt]
    by_cases here : index = place + 1
    · rw [if_pos here, if_pos (by omega), if_pos (by omega)]
    · rw [if_neg here, if_neg (by omega)]
  · rw [List.getElem?_eq_none (by rw [List.length_range]; omega), Option.map_none, Option.map_none]
    split_ifs
    · omega
    · rfl
    · rfl

theorem values_bind_of_outside (count : Nat) (earlier : List StatementUse) {index : Nat}
    (outside : ¬(0 < index ∧ index ≤ count)) (value : SqlValue) :
    values count (parameters (.bind index value) :: earlier) = values count earlier := by
  apply List.map_congr_left
  intro place member
  have inside := List.mem_range.mp member
  rw [valueAt, if_neg (by omega)]

/-- What a use makes of slots with the values and rows of the uses before it. A use that fails adds nothing. -/
theorem fill_eq (count : Nat) (earlier : List StatementUse) (use : StatementUse) :
    ((use.fill { slots := values count earlier, batch := rows count earlier }).toOption.getD
      { slots := values count earlier, batch := rows count earlier }) =
      { slots := values count (use :: earlier), batch := rows count (use :: earlier) } := by
  rcases use with (⟨index, value⟩ | _ | _) | _
  · change ((ParameterSlots.bind _ index value).toOption.getD _) = _
    rw [ParameterSlots.bind, length_values]
    by_cases inside : 0 < index ∧ index ≤ count
    · rw [if_pos inside, values_bind count earlier inside.1]
      rfl
    · rw [if_neg inside, values_bind_of_outside count earlier inside]
      rfl
  · change ((ParameterSlots.addBatch _).toOption.getD _) = _
    rw [ParameterSlots.addBatch]
    by_cases full : (values count earlier).all Option.isSome
    · rw [(ParameterSlots.row_eq_ok_iff _ _).mpr (eq_map_some_of_all_isSome full), rows, if_pos full]
      rfl
    · cases taken : ParameterSlots.row { slots := values count earlier, batch := rows count earlier } with
      | error error =>
        rw [rows, if_neg full]
        rfl
      | ok row =>
        have bound : values count earlier = row.map some := (ParameterSlots.row_eq_ok_iff _ _).mp taken
        rw [bound, List.all_map] at full
        exact absurd (List.all_eq_true.mpr fun _ _ => rfl) full
  · change ParameterSlots.mk ((values count earlier).map fun _ => none) _ = _
    rw [values, values, List.map_map]
    rfl
  · rfl

section Server

variable {Connection Name : Type} (server : PgServer Connection Name)

/-- The statement and its connection after uses. One that fails does not end them. -/
def after (state : Connection × PgStatement Name) (uses : List StatementUse) : Connection × PgStatement Name :=
  uses.foldl (fun state use => ((use.direct server.client).on state).2) state

/-- A use changes the slots or leaves the statement and its connection as they were. -/
theorem on_direct (use : StatementUse) (connection : Connection) (statement : PgStatement Name) :
    (use.direct server.client).on (connection, statement) =
      match use.fill statement.slots with
      | .ok slots => (.ok (), connection, { statement with slots })
      | .error error => (.error error, connection, statement) := by
  rcases use with (⟨index, value⟩ | _ | _) | _
  · exact PgServer.on_modifySlots (fun slots => slots.bind index value) connection statement
  · exact PgServer.on_modifySlots ParameterSlots.addBatch connection statement
  · exact PgServer.on_modifySlots (fun slots => .ok slots.clear) connection statement
  · exact PgServer.on_modifySlots (fun slots => .ok slots.clearBatch) connection statement

theorem after_fresh (connection : Connection) (name : Name) (types : List PgType) (uses : List StatementUse) :
    after server (connection, .fresh name types) uses = (connection, {
      name
      types
      slots := { slots := values types.length uses.reverse, batch := rows types.length uses.reverse } }) := by
  induction uses using List.reverseRecOn with
  | nil =>
    have empty : values types.length [] = List.replicate types.length none := by
      change (List.range types.length).map (fun _ => none) = _
      rw [List.map_const', List.length_range]
    rw [List.reverse_nil, empty]
    rfl
  | append_singleton uses use ih =>
    rw [after, List.foldl_append]
    change ((use.direct server.client).on (after server _ uses)).2 = _
    rw [ih, on_direct, List.reverse_concat, ← fill_eq]
    dsimp only
    cases use.fill _ with
    | ok slots => rfl
    | error error => rfl

end Server

end StatementUse

/-! ## Loading -/

namespace Deferred

variable {Connection Name : Type} (server : PgServer Connection Name) {session : Session Connection (PgStatement Name)}
  {name : Name} {types : List PgType}

/-- Rows of the statement's width are taken over, and then records with the indices of parameters. -/
theorem on_load_of_width (voided : session.statement.phase = .voided (.fresh name types)) {rows : List (List SqlValue)}
    (wide : ∀ row ∈ rows, row.length = types.length) :
    ∃ statement : PgStatement Name, ((load server.client rows).on session).2.statement.phase = .voided statement ∧
      (((load server.client rows).on session).1.isOk ↔
        ∀ record ∈ session.statement.bindings.records, 0 < record.index ∧ record.index ≤ types.length) ∧
      (((load server.client rows).on session).1.isOk → statement.slots.batch = rows ∧
        statement.slots.slots = overlay (ParameterRecord.entries session.statement.bindings.records)
          (ParameterSlots.lastRow rows (List.replicate types.length none))) := by
  have size : (ParameterSlots.ofCount types.length).slots.length = types.length := List.length_replicate
  have added := ParameterSlots.addRows_of_width (by rw [size]; exact wide)
  obtain ⟨connection, own, filled, loads⟩ := on_load_of_rows server.keepsSlots voided added
  obtain ⟨inside, bound⟩ := server.on_bindRecords session.statement.bindings.sorted (connection, own)
  have width : own.slots.slots.length = types.length := by
    rw [filled]
    exact ParameterSlots.length_lastRow_replicate wide
  rw [loads, on_onHandle_of_voided rfl]
  refine ⟨_, rfl, ?_, fun succeeds => ?_⟩
  · rw [inside, width]
  · rw [bound succeeds, filled]
    exact ⟨rfl, rfl⟩

/-- Rows of another width are refused at the first one. -/
theorem on_load_of_width_ne (voided : session.statement.phase = .voided (.fresh name types)) {row : List SqlValue}
    (other : row.length ≠ types.length) (rows : List (List SqlValue)) :
    ∃ statement : PgStatement Name,
      ((load server.client (row :: rows)).on session).2.statement.phase = .voided statement ∧
      statement.slots.batch = [] ∧ ((load server.client (row :: rows)).on session).1 =
        .error (if row.length < types.length then .missingParameter (row.length + 1)
          else ParameterSlots.outOfRange (types.length + 1) types.length) := by
  have fresh : (session.connection, PgStatement.fresh name types).2.slots = .ofCount types.length := rfl
  obtain ⟨after, refused, empty⟩ := server.on_addRows_of_width_ne fresh other rows
  have fails := on_onHandle_of_voided voided (server.client.addRows (row :: rows))
  rw [refused] at fails
  rw [load, Call.on_bind_error fails]
  exact ⟨after.2, rfl, empty, rfl⟩

/-- A statement that was just prepared takes over rows of one width and the values of records. That succeeds exactly if
there is no row, or the width is the number of parameters, and each record has the index of a parameter. Then its batch
is made of the rows, and each parameter has the value of its record or else that of the last row. Rows of another width
are refused at the first one, and the batch stays empty. Whatever uses a statement sees before it is executed, its
parameters and its batch are those that the uses say, each row of the batch was complete when it was ended, and a use
that fails changes nothing. -/
theorem load_fresh_exact (voided : session.statement.phase = .voided (.fresh name types))
    {rows : List (List SqlValue)} {width : Nat} (wide : ∀ row ∈ rows, row.length = width) :
    (∃ statement : PgStatement Name,
      ((load server.client rows).on session).2.statement.phase = .voided statement ∧
      (((load server.client rows).on session).1.isOk ↔ (rows = [] ∨ width = types.length) ∧
        ∀ record ∈ session.statement.bindings.records, 0 < record.index ∧ record.index ≤ types.length) ∧
      (((load server.client rows).on session).1.isOk → statement.slots.batch = rows ∧
        statement.slots.slots = (List.range types.length).map fun place =>
          ((session.statement.bindings.records.find? (·.index == place + 1)).map (·.value)).or
            (rows.getLast?.bind (·[place]?))) ∧
      (rows ≠ [] → width ≠ types.length → statement.slots.batch = [] ∧
        ((load server.client rows).on session).1 = .error (if width < types.length then .missingParameter (width + 1)
          else ParameterSlots.outOfRange (types.length + 1) types.length))) ∧
    ∀ (connection : Connection) (uses : List StatementUse),
      let used := StatementUse.after server (connection, .fresh name types) uses
      used.2.slots.slots = StatementUse.values types.length uses.reverse ∧
      used.2.slots.batch = StatementUse.rows types.length uses.reverse ∧
      (∀ row ∈ used.2.slots.batch, row.length = types.length ∧
        ∃ earlier later, uses = earlier ++ .parameters .addBatch :: later ∧
          (StatementUse.after server (connection, .fresh name types) earlier).2.slots.slots = row.map some) ∧
      ∀ use : StatementUse, ¬((use.direct server.client).on used).1.isOk →
        ((use.direct server.client).on used).2 = used := by
  constructor
  · by_cases taken : rows = [] ∨ width = types.length
    · have fits : ∀ row ∈ rows, row.length = types.length := by
        rintro row member
        rcases taken with rfl | same
        · cases member
        · rw [wide row member, same]
      obtain ⟨statement, still, inside, loaded⟩ := on_load_of_width server voided fits
      refine ⟨statement, still, ?_, ?_, ?_⟩
      · rw [inside, and_iff_right taken]
      · intro succeeds
        obtain ⟨batch, slots⟩ := loaded succeeds
        exact ⟨batch, slots.trans (ParameterSlots.overlay_lastRow_eq fits _)⟩
      · intro some_ other
        rcases taken with none_ | same
        · exact absurd none_ some_
        · exact absurd same other
    · obtain ⟨some_, other⟩ := not_or.mp taken
      obtain ⟨row, others, rfl⟩ := List.exists_cons_of_ne_nil some_
      obtain rfl := wide row (List.mem_cons_self ..)
      obtain ⟨statement, still, empty, refused⟩ := on_load_of_width_ne server voided other others
      refine ⟨statement, still, ?_, ?_, fun _ _ => ⟨empty, refused⟩⟩
      · rw [refused]
        exact iff_of_false nofun fun all => taken all.1
      · rw [refused]
        exact nofun
  · intro connection uses used
    have same : used = _ := StatementUse.after_fresh server connection name types uses
    refine ⟨by rw [same], by rw [same], ?_, ?_⟩
    · intro row member
      rw [same] at member
      obtain ⟨later, earlier, split, values⟩ := StatementUse.eq_append_of_mem_rows member
      constructor
      · rw [← List.length_map (f := some), ← values, StatementUse.length_values]
      · refine ⟨earlier.reverse, later.reverse, ?_, ?_⟩
        · rw [← List.reverse_reverse uses, split, List.reverse_append, List.reverse_cons, List.append_assoc]
          rfl
        · rw [StatementUse.after_fresh, List.reverse_reverse]
          exact values
    · intro use failed
      obtain ⟨connection, statement⟩ := used
      rw [StatementUse.on_direct] at failed ⊢
      cases made : use.fill statement.slots with
      | ok slots =>
        rw [made] at failed
        exact absurd rfl failed
      | error error => rfl

/-- A server whose statements have two parameters. -/
def twoParameters : PgServer Unit Unit where
  prepare _ := pure ((), [.scalar .int4, .scalar .int4])
  execute _ _ := pure { summary := "INSERT 0 1", rows := 0 }

/-- A statement that was just prepared, while a value is kept for its second parameter. -/
def secondParameterKept : Session Unit (PgStatement Unit) where
  connection := ()
  statement := {
    sql := "insert into t (a, b) values (?, ?)"
    settings := {}
    phase := .voided (.fresh () [.scalar .int4, .scalar .int4])
    bindings := BindingTable.set {} (.ofValue 2 (.int 9)) }

/-- Two rows of the statement's width are taken over, of a wider one nothing is. -/
theorem load_fresh_exact_two_parameters :
    (∃ statement : PgStatement Unit, ((load twoParameters.client [[.int 1, .int 2], [.int 3, .int 4]]).on
        secondParameterKept).2.statement.phase = .voided statement ∧
      statement.slots.batch = [[.int 1, .int 2], [.int 3, .int 4]] ∧
      statement.slots.slots = [some (.int 3), some (.int 9)]) ∧
    ∃ statement : PgStatement Unit, ((load twoParameters.client [[.int 1, .int 2, .int 3]]).on
        secondParameterKept).2.statement.phase = .voided statement ∧
      statement.slots.batch = [] ∧ ((load twoParameters.client [[.int 1, .int 2, .int 3]]).on secondParameterKept).1 =
        .error (ParameterSlots.outOfRange 3 2) := by
  have voided : secondParameterKept.statement.phase = .voided (.fresh () [.scalar .int4, .scalar .int4]) := rfl
  constructor
  · have wide : ∀ row ∈ [[SqlValue.int 1, .int 2], [.int 3, .int 4]], row.length = 2 := by simp
    obtain ⟨⟨statement, still, -, loaded, -⟩, -⟩ := load_fresh_exact twoParameters voided wide
    obtain ⟨batch, slots⟩ := loaded rfl
    exact ⟨statement, still, batch, slots⟩
  · have wide : ∀ row ∈ [[SqlValue.int 1, .int 2, .int 3]], row.length = 3 := by simp
    obtain ⟨⟨statement, still, -, -, refused⟩, -⟩ := load_fresh_exact twoParameters voided wide
    obtain ⟨empty, error⟩ := refused (by simp) (by decide)
    exact ⟨statement, still, empty, error⟩

end Deferred

end BulkSql
