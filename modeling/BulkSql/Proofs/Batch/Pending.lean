import BulkSql.Batch.Bindings
import Mathlib.Data.Finset.Sort
import Mathlib.Order.Interval.Finset.Nat

/-! # The row that is being built, as a list of bindings

The plain view of a binding table is the list of all bindings since the last row, of which the last one at an index
counts. A table holds one record for each bound index, in the order of the indices, whatever the order of the
bindings was. It has a row exactly if the bound indices are one, two and so on.
-/

namespace BulkSql

/-- Values bound at indices, the latest binding at the head. -/
abbrev Pending := List (Nat × SqlValue)

namespace Pending

def indices (pending : Pending) : Finset Nat := (pending.map Prod.fst).toFinset

/-- The last value at each bound index, in the order of the indices. -/
def entries (pending : Pending) : List (Nat × SqlValue) :=
  pending.indices.sort.filterMap fun index => (pending.lookup index).map (index, ·)

/-- The values of the row, if the bound indices are one, two and so on. -/
def row? (pending : Pending) : Option (List SqlValue) :=
  if pending.indices = Finset.Icc 1 pending.indices.card then some (pending.entries.map Prod.snd) else none

theorem isSome_lookup_iff (pending : Pending) (index : Nat) :
    (pending.lookup index).isSome ↔ index ∈ pending.indices := by
  induction pending with
  | nil => simp [indices]
  | cons binding pending ih =>
    obtain ⟨bound, value⟩ := binding
    by_cases same : index = bound
    · simp [indices, same]
    · have other : (index == bound) = false := beq_false_of_ne same
      simp [indices, List.lookup_cons, other, same, ih]

end Pending

namespace ParameterRecord

theorem find?_insertInto (record : ParameterRecord) (records : List ParameterRecord) (index : Nat) :
    (record.insertInto records).find? (·.index == index) =
      if record.index = index then some record else records.find? (·.index == index) := by
  fun_induction insertInto record records with
  | case1 => simp [List.find?_cons]; split <;> simp_all
  | case2 other records _ => by_cases same : record.index = index <;> simp [same]
  | case3 other records _ replaced =>
    by_cases same : record.index = index
    · simp [same]
    · simp [same, replaced ▸ same]
  | case4 other records _ distinct ih =>
    by_cases first : other.index = index
    · have apart : record.index ≠ index := fun same => distinct (same.trans first.symm)
      simp [first, apart]
    · simp [first, ih]

/-- A record is found under its own index among records in strict order. -/
theorem find?_of_mem {records : List ParameterRecord} (sorted : records.Pairwise (·.index < ·.index))
    {record : ParameterRecord} (member : record ∈ records) :
    records.find? (·.index == record.index) = some record := by
  induction records with
  | nil => simp at member
  | cons first records ih =>
    obtain ⟨before, rest⟩ := List.pairwise_cons.mp sorted
    rcases List.mem_cons.mp member with same | behind
    · simp [same]
    · have less := before record behind
      rw [List.find?_cons_of_neg (by simpa using Nat.ne_of_lt less), ih rest behind]

end ParameterRecord

namespace BindingTable

/-- A table stands for bindings if it has, under each index, the last value bound there with that value's own type. -/
def Represents (table : BindingTable) (pending : Pending) : Prop :=
  ∀ index, table.records.find? (·.index == index) = (pending.lookup index).map (ParameterRecord.ofValue index)

theorem represents_nil : BindingTable.Represents {} [] := fun _ => rfl

theorem Represents.set {table : BindingTable} {pending : Pending} (same : table.Represents pending) (index : Nat)
    (value : SqlValue) : (table.set (.ofValue index value)).Represents ((index, value) :: pending) := by
  intro wanted
  change ((ParameterRecord.ofValue index value).insertInto table.records).find? (·.index == wanted) = _
  rw [ParameterRecord.find?_insertInto, same wanted]
  change (if index = wanted then _ else _) = _
  by_cases here : index = wanted
  · simp [here]
  · have other : (wanted == index) = false := beq_false_of_ne (Ne.symm here)
    simp [here, List.lookup_cons, other]

theorem Represents.mem_indices_iff {table : BindingTable} {pending : Pending} (same : table.Represents pending)
    (index : Nat) : index ∈ table.records.map (·.index) ↔ index ∈ pending.indices := by
  rw [← Pending.isSome_lookup_iff, ← Option.isSome_map (f := ParameterRecord.ofValue index), ← same index,
    List.find?_isSome]
  simp

/-- The indices of a table stand in their order, each once. -/
theorem indices_eq_sort (table : BindingTable) {indices : Finset Nat}
    (bound : ∀ index, index ∈ table.records.map (·.index) ↔ index ∈ indices) :
    table.records.map (·.index) = indices.sort := by
  have strict : (table.records.map (·.index)).Pairwise (· < ·) := List.pairwise_map.mpr table.sorted
  have ordered : indices.sort.Pairwise (· ≤ ·) := Finset.pairwise_sort ..
  apply List.Perm.eq_of_pairwise (fun a b _ _ => Nat.le_antisymm) (strict.imp Nat.le_of_lt) ordered
  apply (List.perm_ext_iff_of_nodup (strict.imp Nat.ne_of_lt) (Finset.sort_nodup ..)).mpr
  intro index
  rw [bound, Finset.mem_sort]

/-- The indices of a table are the bound ones in their order. -/
theorem Represents.indices_eq {table : BindingTable} {pending : Pending} (same : table.Represents pending) :
    table.records.map (·.index) = pending.indices.sort := table.indices_eq_sort same.mem_indices_iff

/-- A table holds exactly the last value of each bound index, in the order of the indices. -/
theorem Represents.records_eq {table : BindingTable} {pending : Pending} (same : table.Represents pending) :
    table.records = pending.entries.map fun (index, value) => .ofValue index value := by
  calc
    table.records = (table.records.map (·.index)).filterMap fun index => table.records.find? (·.index == index) := by
      rw [List.filterMap_map]
      symm
      calc
        _ = table.records.filterMap some :=
          List.filterMap_congr fun record member => ParameterRecord.find?_of_mem table.sorted member
        _ = table.records := List.filterMap_some
    _ = pending.indices.sort.filterMap fun index => (pending.lookup index).map (ParameterRecord.ofValue index) := by
      rw [same.indices_eq]
      exact congrArg (pending.indices.sort.filterMap ·) (funext same)
    _ = _ := by
      rw [Pending.entries, List.map_filterMap]
      simp only [Option.map_map, Function.comp_def]

theorem firstGap?_eq_none_iff (first : Nat) (records : List ParameterRecord) :
    firstGap? first records = none ↔ records.map (·.index) = List.range' first records.length := by
  induction records generalizing first with
  | nil => simp [firstGap?]
  | cons record records ih =>
    by_cases here : record.index = first
    · simp [firstGap?, here, List.range'_succ, ih]
    · simp [firstGap?, here, List.range'_succ]

/-- Indices in order count from one exactly if they make up an interval from one. -/
theorem sort_eq_range'_iff (indices : Finset Nat) :
    indices.sort = List.range' 1 indices.card ↔ indices = Finset.Icc 1 indices.card := by
  have counted (count : Nat) : (List.range' 1 count).toFinset = Finset.Icc 1 count := by
    ext index
    simp only [List.mem_toFinset, List.mem_range'_1, Finset.mem_Icc]
    omega
  constructor
  · intro counting
    rw [← counted, ← counting, Finset.sort_toFinset]
  · intro interval
    have ordered : indices.sort.Pairwise (· ≤ ·) := Finset.pairwise_sort ..
    have counting : (List.range' 1 indices.card).Pairwise (· < ·) := List.pairwise_lt_range' ..
    apply List.Perm.eq_of_pairwise (fun a b _ _ => Nat.le_antisymm) ordered (counting.imp Nat.le_of_lt)
    apply (List.perm_ext_iff_of_nodup (Finset.sort_nodup ..) (counting.imp Nat.ne_of_lt)).mpr
    intro index
    rw [Finset.mem_sort, ← List.mem_toFinset, counted, ← interval]

/-- A table has a row exactly if the bindings have one, and then the row holds its values with their own types. -/
theorem Represents.row_eq {table : BindingTable} {pending : Pending} (same : table.Represents pending) :
    (∃ error, pending.row? = none ∧ table.row = .error error) ∨
      ∃ values, pending.row? = some values ∧
        table.row = .ok ((values.zipIdx 1).map fun (value, index) => .ofValue index value) := by
  have indices := same.indices_eq
  have size : table.records.length = pending.indices.card := by
    rw [← List.length_map (f := ParameterRecord.index), indices, Finset.length_sort]
  unfold row Pending.row?
  by_cases interval : pending.indices = Finset.Icc 1 pending.indices.card
  · have counting := (sort_eq_range'_iff _).mpr interval
    rw [if_pos interval, (firstGap?_eq_none_iff ..).mpr (by rw [indices, size, counting])]
    refine .inr ⟨_, rfl, ?_⟩
    have counted : pending.entries.map Prod.fst = List.range' 1 pending.entries.length := by
      have here := congrArg (List.map ParameterRecord.index) same.records_eq
      rw [indices, counting, List.map_map] at here
      have width : pending.entries.length = pending.indices.card := by
        rw [← size, same.records_eq, List.length_map]
      rw [width, here]
      rfl
    rw [same.records_eq, List.zipIdx_eq_zip_range', List.length_map, ← counted, List.zip_map', List.map_map,
      Except.ok.injEq]
    rfl
  · rw [if_neg interval]
    cases gap : firstGap? 1 table.records with
    | some index => exact .inl ⟨_, rfl, rfl⟩
    | none =>
      have counting := (firstGap?_eq_none_iff ..).mp gap
      rw [indices, size] at counting
      exact absurd ((sort_eq_range'_iff _).mp counting) interval

end BindingTable

/-- The row that is being built has its values at their indices. -/
theorem Pending.lookup_of_row? {pending : Pending} {row : List SqlValue} (complete : pending.row? = some row)
    (place : Nat) : pending.lookup (place + 1) = row[place]? := by
  unfold row? at complete
  split at complete
  · next interval =>
    obtain rfl := Option.some.inj complete
    have counting := (BindingTable.sort_eq_range'_iff _).mpr interval
    -- every index of the row is bound, so no value is left out
    have present : ∀ index ∈ List.range' 1 pending.indices.card,
        (pending.lookup index).map (index, ·) = some (index, (pending.lookup index).getD default) := by
      intro index member
      rw [← counting, Finset.mem_sort, ← isSome_lookup_iff] at member
      obtain ⟨value, bound⟩ := Option.isSome_iff_exists.mp member
      rw [bound]
      rfl
    have values : pending.entries.map Prod.snd =
        (List.range' 1 pending.indices.card).map fun index => (pending.lookup index).getD default := by
      rw [entries, counting, List.filterMap_congr present, List.map_filterMap, ← List.filterMap_eq_map]
      rfl
    rw [values, List.getElem?_map]
    by_cases inside : place < pending.indices.card
    · have member : place + 1 ∈ pending.indices := by
        rw [interval, Finset.mem_Icc]
        omega
      obtain ⟨value, bound⟩ := Option.isSome_iff_exists.mp ((isSome_lookup_iff ..).mpr member)
      rw [List.getElem?_range' inside, Option.map_some, Nat.one_mul, Nat.add_comm 1, bound]
      rfl
    · have absent : place + 1 ∉ pending.indices := by
        rw [interval, Finset.mem_Icc]
        omega
      rw [← isSome_lookup_iff, Option.not_isSome_iff_eq_none] at absent
      rw [absent, List.getElem?_eq_none (by rw [List.length_range']; omega)]
      rfl
  · cases complete

end BulkSql
