import BulkSql.Postgres.Statement
import BulkSql.Proofs.Batch.Pending
import BulkSql.Proofs.Deferred.Calls

/-! # What is in the slots

Values that are bound one after the other lie over what the slots held before. Rows that are delivered to a statement
leave their last one in its slots. A client keeps its parameters in slots if its calls do to a prepared statement what
the operations on slots do; the client of a server is one.
-/

namespace BulkSql

/-- Slots with values bound over what they held. The first value for an index counts. -/
def overlay (values : List (Nat × SqlValue)) (slots : List (Option SqlValue)) : List (Option SqlValue) :=
  slots.mapIdx fun place slot => (values.lookup (place + 1)).or slot

section Overlay

variable {values others : List (Nat × SqlValue)} {slots : List (Option SqlValue)}

@[simp] theorem length_overlay (values : List (Nat × SqlValue)) (slots : List (Option SqlValue)) :
    (overlay values slots).length = slots.length := List.length_mapIdx

theorem getElem?_overlay (values : List (Nat × SqlValue)) (slots : List (Option SqlValue)) (place : Nat) :
    (overlay values slots)[place]? = slots[place]?.map fun slot => (values.lookup (place + 1)).or slot :=
  List.getElem?_mapIdx

@[simp] theorem overlay_nil (slots : List (Option SqlValue)) : overlay [] slots = slots := by
  apply List.ext_getElem?
  intro place
  rw [getElem?_overlay]
  exact congrFun Option.map_id slots[place]?

theorem overlay_congr (same : ∀ place, values.lookup (place + 1) = others.lookup (place + 1)) :
    overlay values slots = overlay others slots := by
  simp only [overlay, same]

/-- One more value is bound over the others. -/
theorem overlay_set {index : Nat} (positive : 0 < index) (value : SqlValue) :
    (overlay values slots).set (index - 1) (some value) = overlay ((index, value) :: values) slots := by
  apply List.ext_getElem?
  intro place
  rw [List.getElem?_set, getElem?_overlay, getElem?_overlay, length_overlay, List.lookup_cons]
  by_cases here : index - 1 = place
  · have same : (place + 1 == index) = true := by
      rw [beq_iff_eq]
      omega
    rw [if_pos here, here, same]
    by_cases inside : place < slots.length
    · rw [if_pos inside, List.getElem?_eq_getElem inside]
      rfl
    · rw [if_neg inside, List.getElem?_eq_none (Nat.le_of_not_lt inside)]
      rfl
  · have other : (place + 1 == index) = false := by
      rw [beq_eq_false_iff_ne]
      omega
    rw [if_neg here, other]

/-- Values bound after another one, at other indices, lie beside it. -/
theorem overlay_over_set {index : Nat} (positive : 0 < index) (value : SqlValue) (apart : values.lookup index = none) :
    overlay values (slots.set (index - 1) (some value)) = overlay ((index, value) :: values) slots := by
  apply List.ext_getElem?
  intro place
  rw [← overlay_set positive, List.getElem?_set, getElem?_overlay, List.getElem?_set, length_overlay, getElem?_overlay]
  by_cases here : index - 1 = place
  · have same : place + 1 = index := by omega
    rw [if_pos here, if_pos here, here, same, apart]
    by_cases inside : place < slots.length
    · rw [if_pos inside]
      rfl
    · rw [if_neg inside]
      rfl
  · rw [if_neg here, if_neg here]

/-- Where every slot gets a value, what was held before does not count. -/
theorem overlay_of_full {before after : List (Option SqlValue)} (width : before.length = after.length)
    (full : ∀ place, place < after.length → (values.lookup (place + 1)).isSome) :
    overlay values before = overlay values after := by
  apply List.ext_getElem?
  intro place
  rw [getElem?_overlay, getElem?_overlay]
  by_cases inside : place < after.length
  · obtain ⟨value, bound⟩ := Option.isSome_iff_exists.mp (full place inside)
    rw [List.getElem?_eq_getElem inside, List.getElem?_eq_getElem (width ▸ inside), bound]
    rfl
  · rw [List.getElem?_eq_none (Nat.le_of_not_lt inside), List.getElem?_eq_none (by omega)]

end Overlay

/-- Where all slots were empty and are bound, a value was bound at each. -/
theorem isSome_lookup_of_overlay {values : List (Nat × SqlValue)} {count : Nat} {row : List SqlValue}
    (full : overlay values (List.replicate count none) = row.map some) {place : Nat} (inside : place < count) :
    (values.lookup (place + 1)).isSome := by
  have here := congrArg (·[place]?) full
  simp only [getElem?_overlay, List.getElem?_replicate, if_pos inside, Option.map_some, Option.or_none,
    List.getElem?_map] at here
  cases found : row[place]? with
  | none =>
    rw [found] at here
    cases here
  | some value =>
    rw [found] at here
    rw [Option.some.inj here]
    rfl

/-- Records as values under their indices. -/
def ParameterRecord.entries (records : List ParameterRecord) : List (Nat × SqlValue) :=
  records.map fun record => (record.index, record.value)

theorem ParameterRecord.lookup_entries (records : List ParameterRecord) (index : Nat) :
    (entries records).lookup index = (records.find? (·.index == index)).map (·.value) := by
  induction records with
  | nil => rfl
  | cons record records ih =>
    rw [entries, List.map_cons, List.lookup_cons, List.find?_cons, BEq.comm]
    cases record.index == index with
    | true => rfl
    | false => exact ih

/-- A table has the values that it stands for. -/
theorem BindingTable.Represents.lookup_eq {table : BindingTable} {pending : Pending} (same : table.Represents pending)
    (index : Nat) : (ParameterRecord.entries table.records).lookup index = pending.lookup index := by
  rw [ParameterRecord.lookup_entries, same index, Option.map_map]
  exact congrFun Option.map_id _

/-- The values of a row under one, two and so on. -/
def numbered (row : List SqlValue) : List (Nat × SqlValue) := (row.zipIdx 1).map Prod.swap

theorem lookup_zipIdx (row : List SqlValue) (first place : Nat) :
    ((row.zipIdx first).map Prod.swap).lookup (first + place) = row[place]? := by
  induction row generalizing first place with
  | nil => rfl
  | cons value row ih =>
    cases place with
    | zero => simp
    | succ place =>
      have other : (first + (place + 1) == first) = false := by
        rw [beq_eq_false_iff_ne]
        omega
      have next : first + (place + 1) = first + 1 + place := by omega
      rw [List.zipIdx_cons, List.map_cons, Prod.swap, List.lookup_cons, other, next]
      exact ih (first + 1) place

theorem lookup_numbered (row : List SqlValue) (place : Nat) : (numbered row).lookup (place + 1) = row[place]? := by
  rw [numbered, Nat.add_comm]
  exact lookup_zipIdx row 1 place

theorem pairwise_numbered (row : List SqlValue) : (numbered row).Pairwise (·.1 < ·.1) := by
  apply List.pairwise_map.mp
  have indices : (numbered row).map Prod.fst = List.range' 1 row.length := by
    rw [numbered, List.map_map]
    exact List.zipIdx_map_snd 1 row
  rw [indices]
  exact List.pairwise_lt_range' ..

theorem mem_numbered_bounds {row : List SqlValue} {entry : Nat × SqlValue} (member : entry ∈ numbered row) :
    0 < entry.1 ∧ entry.1 ≤ row.length := by
  obtain ⟨⟨value, index⟩, inside, rfl⟩ := List.mem_map.mp member
  have bounds := List.mem_zipIdx inside
  change 0 < index ∧ index ≤ row.length
  omega

theorem overlay_numbered {row : List SqlValue} {slots : List (Option SqlValue)} (width : row.length = slots.length) :
    overlay (numbered row) slots = row.map some := by
  apply List.ext_getElem?
  intro place
  rw [getElem?_overlay, lookup_numbered, List.getElem?_map]
  by_cases inside : place < row.length
  · rw [List.getElem?_eq_getElem inside, List.getElem?_eq_getElem (width ▸ inside)]
    rfl
  · rw [List.getElem?_eq_none (Nat.le_of_not_lt inside), List.getElem?_eq_none (by omega)]
    rfl

namespace ParameterSlots

/-! ## Complete slots -/

theorem valuesFrom_eq_ok_iff (index : Nat) (slots : List (Option SqlValue)) (values : List SqlValue) :
    valuesFrom index slots = .ok values ↔ slots = values.map some := by
  fun_induction valuesFrom index slots generalizing values with
  | case1 => cases values <;> simp
  | case2 => cases values <;> simp
  | case3 index value slots ih =>
    cases taken : valuesFrom (index + 1) slots with
    | error error =>
      have none_ := fun values => (ih values).mpr.mt (by rw [taken]; simp)
      cases values with
      | nil => simp [Except.map]
      | cons first values => simp [Except.map, none_ values]
    | ok others =>
      have rest := (ih others).mp taken
      rw [rest, Except.map]
      cases values with
      | nil => simp
      | cons first values =>
        simp only [Except.ok.injEq, List.cons.injEq, List.map_cons, Option.some.injEq]
        rw [List.map_inj_right fun _ _ => Option.some.inj]

/-- A row is taken from slots that are all bound. -/
theorem row_eq_ok_iff (slots : ParameterSlots) (values : List SqlValue) :
    slots.row = .ok values ↔ slots.slots = values.map some := valuesFrom_eq_ok_iff 1 slots.slots values

/-! ## Delivered values and rows -/

/-- Bind values one after the other. -/
def bindAll (slots : ParameterSlots) (values : List (Nat × SqlValue)) : Except SqlError ParameterSlots :=
  values.foldlM (fun slots (index, value) => slots.bind index value) slots

/-- Bind a row and add it to the batch. -/
def addRow (slots : ParameterSlots) (row : List SqlValue) : Except SqlError ParameterSlots := do
  let slots ← slots.bindAll (numbered row)
  slots.addBatch

theorem bind_of_inside {slots : ParameterSlots} {index : Nat} (inside : 0 < index ∧ index ≤ slots.slots.length)
    (value : SqlValue) :
    slots.bind index value = .ok { slots with slots := slots.slots.set (index - 1) (some value) } := by
  rw [bind, if_pos inside]

/-- Values in the order of their indices are all bound, whatever the slots held. -/
theorem bindAll_of_pairwise {slots : ParameterSlots} {values : List (Nat × SqlValue)}
    (sorted : values.Pairwise (·.1 < ·.1)) (inside : ∀ entry ∈ values, 0 < entry.1 ∧ entry.1 ≤ slots.slots.length) :
    slots.bindAll values = .ok { slots with slots := overlay values slots.slots } := by
  induction values generalizing slots with
  | nil =>
    rw [overlay_nil]
    rfl
  | cons entry values ih =>
    obtain ⟨index, value⟩ := entry
    obtain ⟨before, rest⟩ := List.pairwise_cons.mp sorted
    have bounds : 0 < index ∧ index ≤ slots.slots.length := inside (index, value) (List.mem_cons_self ..)
    have apart : values.lookup index = none := by
      apply List.lookup_eq_none_iff.mpr
      intro other member
      have later := before other member
      rw [bne_iff_ne]
      exact Nat.ne_of_lt later
    rw [bindAll, List.foldlM_cons]
    dsimp only
    rw [bind_of_inside bounds, ← overlay_over_set bounds.1 value apart]
    apply ih rest
    intro other member
    rw [List.length_set]
    exact inside other (List.mem_cons_of_mem _ member)

theorem addRow_of_width {slots : ParameterSlots} {row : List SqlValue} (width : row.length = slots.slots.length) :
    slots.addRow row = .ok { slots := row.map some, batch := slots.batch ++ [row] } := by
  have inside : ∀ entry ∈ numbered row, 0 < entry.1 ∧ entry.1 ≤ slots.slots.length := by
    intro entry member
    rw [← width]
    exact mem_numbered_bounds member
  have taken : ({ slots with slots := row.map some } : ParameterSlots).row = .ok row := (row_eq_ok_iff _ _).mpr rfl
  rw [addRow, bindAll_of_pairwise (pairwise_numbered row) inside, overlay_numbered width]
  change addBatch { slots with slots := row.map some } = _
  rw [addBatch, taken]
  rfl

/-- What slots hold after rows were delivered: the last row, or what they held before. -/
def lastRow (rows : List (List SqlValue)) (slots : List (Option SqlValue)) : List (Option SqlValue) :=
  (rows.getLast?.map (·.map some)).getD slots

theorem length_lastRow {rows : List (List SqlValue)} {slots : List (Option SqlValue)}
    (width : ∀ row ∈ rows, row.length = slots.length) : (lastRow rows slots).length = slots.length := by
  cases last : rows.getLast? with
  | none => rw [lastRow, last]; rfl
  | some row =>
    rw [lastRow, last]
    exact (List.length_map _).trans (width row (List.mem_of_getLast? last))

theorem length_lastRow_replicate {rows : List (List SqlValue)} {count : Nat}
    (width : ∀ row ∈ rows, row.length = count) : (lastRow rows (List.replicate count none)).length = count := by
  have size : (List.replicate count (none : Option SqlValue)).length = count := List.length_replicate
  rw [length_lastRow (by rw [size]; exact width), size]

theorem addRows_of_width {slots : ParameterSlots} {rows : List (List SqlValue)}
    (width : ∀ row ∈ rows, row.length = slots.slots.length) :
    rows.foldlM addRow slots = .ok { slots := lastRow rows slots.slots, batch := slots.batch ++ rows } := by
  induction rows generalizing slots with
  | nil => simp [lastRow, pure, Except.pure]
  | cons row rows ih =>
    have here := width row (List.mem_cons_self ..)
    have others : ∀ other ∈ rows, other.length = (row.map some).length := by
      intro other member
      rw [List.length_map, here]
      exact width other (List.mem_cons_of_mem _ member)
    rw [List.foldlM_cons, addRow_of_width here]
    refine (@ih { slots := row.map some, batch := slots.batch ++ [row] } others).trans ?_
    rw [lastRow, lastRow, List.getLast?_cons, List.append_assoc]
    cases rows.getLast? <;> rfl

end ParameterSlots

/-! ## Clients -/

namespace Client

variable {Connection Handle Rows : Type} {client : Client Connection Handle Rows} {slots : Handle → ParameterSlots}

/-- A call is answered as a change of slots is, and if that succeeds the slots of the statement are changed so. -/
def Follows (slots : Handle → ParameterSlots) (call : Call (Connection × Handle) Unit)
    (change : ParameterSlots → Except SqlError ParameterSlots) : Prop :=
  ∀ state, (call.on state).1 = (change (slots state.2)).map (fun _ => ()) ∧
    ∀ after, change (slots state.2) = .ok after → slots (call.on state).2.2 = after

/-- A client whose prepared statements keep what is bound to them in slots. -/
structure KeepsSlots (client : Client Connection Handle Rows) (slots : Handle → ParameterSlots) : Prop where
  /-- nothing is bound to a statement that was just prepared -/
  prepared : ∀ {sql connection handle after}, (client.prepare sql).on connection = (.ok handle, after) →
    ∃ count, slots handle = .ofCount count
  bind : ∀ index value, Follows slots (client.bind index value) fun slots => slots.bind index value
  clearParameters : Follows slots client.clearParameters fun slots => .ok slots.clear
  addBatch : Follows slots client.addBatch ParameterSlots.addBatch

theorem follows_pure : Follows slots (pure () : Call (Connection × Handle) Unit) .ok := by
  intro state
  exact ⟨rfl, fun after same => Except.ok.inj same⟩

/-- A call that succeeded changed the slots. -/
theorem Follows.of_ok {call : Call (Connection × Handle) Unit}
    {change : ParameterSlots → Except SqlError ParameterSlots} (follows : Follows slots call change)
    {state after : Connection × Handle} (ran : call.on state = (.ok (), after)) :
    change (slots state.2) = .ok (slots after.2) := by
  obtain ⟨answer, changed⟩ := follows state
  rw [ran] at answer changed
  cases done : change (slots state.2) with
  | error error =>
    rw [done] at answer
    cases answer
  | ok filled => rw [changed filled done]

/-- Two calls in order follow two changes in order. -/
theorem Follows.seq {call next : Call (Connection × Handle) Unit}
    {change then_ : ParameterSlots → Except SqlError ParameterSlots} (first : Follows slots call change)
    (second : Follows slots next then_) : Follows slots (call >>= fun _ => next) fun slots => change slots >>= then_ := by
  intro state
  obtain ⟨answer, changed⟩ := first state
  dsimp only
  cases done : change (slots state.2) with
  | error error =>
    have failed : call.on state = (.error error, (call.on state).2) := Prod.ext (by rw [answer, done]; rfl) rfl
    rw [Call.on_bind_error failed]
    exact ⟨rfl, nofun⟩
  | ok after =>
    have ran : call.on state = (.ok (), (call.on state).2) := Prod.ext (by rw [answer, done]; rfl) rfl
    have same : slots (call.on state).2.2 = after := changed after done
    have rest := second (call.on state).2
    rw [same] at rest
    rw [Call.on_bind_ok ran]
    exact rest

theorem follows_forM {Item : Type} {call : Item → Call (Connection × Handle) Unit}
    {change : ParameterSlots → Item → Except SqlError ParameterSlots}
    (each : ∀ item, Follows slots (call item) fun slots => change slots item) (items : List Item) :
    Follows slots (items.forM call) fun slots => items.foldlM change slots := by
  induction items with
  | nil => exact follows_pure
  | cons item items ih => exact (each item).seq ih

namespace KeepsSlots

variable (keeps : client.KeepsSlots slots)

include keeps

theorem bindRow (row : List SqlValue) :
    Follows slots (client.bindRow row) fun slots => slots.bindAll (numbered row) := by
  have each : Follows slots (client.bindRow row) fun slots =>
      (row.zipIdx 1).foldlM (fun slots entry => slots.bind entry.2 entry.1) slots :=
    follows_forM (fun entry : SqlValue × Nat => keeps.bind entry.2 entry.1) (row.zipIdx 1)
  simp only [ParameterSlots.bindAll, numbered, List.foldlM_map]
  exact each

/-- Rows are delivered to the slots and to the batch. -/
theorem addRows (rows : List (List SqlValue)) :
    Follows slots (client.addRows rows) fun slots => rows.foldlM ParameterSlots.addRow slots :=
  follows_forM (fun row => (keeps.bindRow row).seq keeps.addBatch) rows

theorem bindRecords (records : List ParameterRecord) :
    Follows slots (client.bindRecords records) fun slots => slots.bindAll (ParameterRecord.entries records) := by
  have each : Follows slots (client.bindRecords records) fun slots =>
      records.foldlM (fun slots record => slots.bind record.index record.value) slots :=
    follows_forM (fun record : ParameterRecord => keeps.bind record.index record.value) records
  simp only [ParameterSlots.bindAll, ParameterRecord.entries, List.foldlM_map]
  exact each

end KeepsSlots

end Client

namespace PgServer

variable {Connection Name : Type} (server : PgServer Connection Name)

/-- A change that succeeds is made. Otherwise the statement and its connection stay as they were. -/
theorem on_modifySlots (change : ParameterSlots → Except SqlError ParameterSlots) (connection : Connection)
    (statement : PgStatement Name) :
    Call.on (modifySlots change : StatementCall Connection Name Unit) (connection, statement) =
      match change statement.slots with
      | .ok slots => (.ok (), connection, { statement with slots })
      | .error error => (.error error, connection, statement) := by
  rw [modifySlots, Call.on_bind_ok (Call.on_get (connection, statement))]
  dsimp only
  rw [Call.on_bind, Call.on_ofExcept]
  cases change statement.slots with
  | ok slots => rfl
  | error error => rfl

theorem follows_modifySlots (change : ParameterSlots → Except SqlError ParameterSlots) :
    Client.Follows PgStatement.slots (modifySlots change : StatementCall Connection Name Unit) change := by
  rintro ⟨connection, statement⟩
  rw [on_modifySlots]
  cases change statement.slots with
  | error error => exact ⟨rfl, nofun⟩
  | ok after => exact ⟨rfl, fun _ same => Except.ok.inj same⟩

/-- The statements of a server keep their parameters in slots. -/
theorem keepsSlots : server.client.KeepsSlots PgStatement.slots where
  prepared := by
    intro sql connection handle after prepared
    change Call.on (server.prepareStatement sql) connection = _ at prepared
    rw [prepareStatement, Call.on_bind] at prepared
    split at prepared
    · next numbered numberedAfter _ =>
      rw [Call.on_bind] at prepared
      split at prepared
      · next answer answered _ =>
        rw [Call.on_bind] at prepared
        split at prepared
        · obtain ⟨same, -⟩ := Prod.mk.inj prepared
          rw [← Except.ok.inj same]
          exact ⟨_, rfl⟩
        · cases prepared
      · cases prepared
    · cases prepared
  bind index value := follows_modifySlots fun slots => slots.bind index value
  clearParameters := follows_modifySlots fun slots => .ok slots.clear
  addBatch := follows_modifySlots ParameterSlots.addBatch

end PgServer

end BulkSql
