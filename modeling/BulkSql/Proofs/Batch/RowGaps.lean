import BulkSql.Proofs.Batch.Pending
import BulkSql.Proofs.Deferred.Calls

/-! # The parameter that a row misses

A table that records are set in holds the last one of each index, in the order of the indices. It is ended as a row
exactly if its indices are one, two and so on. Otherwise a parameter is named: the least one that is not bound, unless
a value at index zero stands in front of the first parameter. Then the first parameter is named, bound or not.
-/

namespace BulkSql

namespace ParameterRecord

/-- The last of some records that has an index. -/
def lastAt? (records : List ParameterRecord) (index : Nat) : Option ParameterRecord :=
  records.reverse.find? (·.index == index)

/-- The indices that records are bound at. -/
def indices (records : List ParameterRecord) : Finset Nat := (records.map (·.index)).toFinset

theorem mem_indices {records : List ParameterRecord} {index : Nat} :
    index ∈ indices records ↔ ∃ record ∈ records, record.index = index := by
  rw [indices, List.mem_toFinset, List.mem_map]

end ParameterRecord

open ParameterRecord

namespace BindingTable

/-- The table after records were set one after the other. -/
def ofRecords (records : List ParameterRecord) : BindingTable := records.foldl set {}

variable {records : List ParameterRecord}

/-- Under each index the last record counts. -/
theorem find?_ofRecords (records : List ParameterRecord) (index : Nat) :
    (ofRecords records).records.find? (·.index == index) = lastAt? records index := by
  have onto (table : BindingTable) : (records.foldl set table).records.find? (·.index == index) =
      (lastAt? records index).or (table.records.find? (·.index == index)) := by
    induction records generalizing table with
    | nil => rfl
    | cons record records ih =>
      rw [List.foldl_cons, ih]
      change (lastAt? records index).or ((record.insertInto table.records).find? (·.index == index)) = _
      rw [find?_insertInto, lastAt?, lastAt?, List.reverse_cons, List.find?_append, Option.or_assoc]
      by_cases here : record.index = index
      · simp [here]
      · simp [here]
  exact (onto {}).trans Option.or_none

theorem mem_ofRecords_iff (records : List ParameterRecord) (index : Nat) :
    index ∈ (ofRecords records).records.map (·.index) ↔ index ∈ indices records := by
  have found : (∃ record ∈ (ofRecords records).records, record.index = index) ↔
      (lastAt? records index).isSome := by
    rw [← find?_ofRecords, List.find?_isSome]
    simp
  rw [List.mem_map, found, lastAt?, List.find?_isSome, mem_indices]
  simp

theorem indices_ofRecords (records : List ParameterRecord) :
    (ofRecords records).records.map (·.index) = (indices records).sort :=
  (ofRecords records).indices_eq_sort (mem_ofRecords_iff records)

theorem length_ofRecords (records : List ParameterRecord) :
    (ofRecords records).records.length = (indices records).card := by
  rw [← List.length_map (f := ParameterRecord.index), indices_ofRecords, Finset.length_sort]

/-! ## Gaps -/

theorem le_of_firstGap? {first index : Nat} (gap : firstGap? first records = some index) : first ≤ index := by
  induction records generalizing first with
  | nil => cases gap
  | cons record records ih =>
    rw [firstGap?] at gap
    split at gap
    · exact Nat.le_of_succ_le (ih gap)
    · exact (Option.some.inj gap).le

/-- Among indices in order, none of which comes too early, the first gap is the least index that is missing. -/
theorem isLeast_of_firstGap? {first index : Nat} (sorted : records.Pairwise (·.index < ·.index))
    (inside : ∀ record ∈ records, first ≤ record.index) (gap : firstGap? first records = some index) :
    IsLeast {missing | first ≤ missing ∧ missing ∉ records.map (·.index)} index := by
  induction records generalizing first with
  | nil => cases gap
  | cons record records ih =>
    obtain ⟨before, rest⟩ := List.pairwise_cons.mp sorted
    have here := inside record (List.mem_cons_self ..)
    rw [firstGap?] at gap
    split at gap
    · next same =>
      have behind : ∀ other ∈ records, first + 1 ≤ other.index := fun other member => same ▸ before other member
      obtain ⟨⟨later, missing⟩, least⟩ := ih rest behind gap
      refine ⟨⟨by omega, ?_⟩, fun other isMissing => least ⟨?_, ?_⟩⟩
      · rw [List.map_cons, List.mem_cons, not_or]
        exact ⟨by omega, missing⟩
      · have apart : other ≠ record.index := fun equal => isMissing.2 (by simp [equal])
        have reached := isMissing.1
        omega
      · exact fun member => isMissing.2 (List.mem_cons_of_mem _ member)
    · next other =>
      obtain rfl := Option.some.inj gap
      refine ⟨⟨Nat.le_refl _, ?_⟩, fun missing isMissing => isMissing.1⟩
      rw [List.map_cons, List.mem_cons, not_or, List.mem_map]
      refine ⟨Ne.symm other, ?_⟩
      rintro ⟨found, member, same⟩
      have later := before found member
      omega

/-- The first parameter is named if something is bound and does not start with it. -/
theorem firstGap?_eq_one_iff (sorted : records.Pairwise (·.index < ·.index)) :
    firstGap? 1 records = some 1 ↔
      0 ∈ records.map (·.index) ∨ records ≠ [] ∧ 1 ∉ records.map (·.index) := by
  cases records with
  | nil => simp [firstGap?]
  | cons record records =>
    have before := (List.pairwise_cons.mp sorted).1
    have behind (index : Nat) (member : index ∈ records.map (·.index)) : record.index < index := by
      obtain ⟨other, inside, rfl⟩ := List.mem_map.mp member
      exact before other inside
    rw [firstGap?, List.map_cons, List.mem_cons, List.mem_cons]
    by_cases start : record.index = 1
    · have goesOn : firstGap? (1 + 1) records ≠ some 1 := fun gap => absurd (le_of_firstGap? gap) (by decide)
      have noZero : 0 ∉ records.map (·.index) := fun member => absurd (behind 0 member) (Nat.not_lt_zero _)
      simp [start, goesOn, noZero]
    · rw [if_neg start]
      refine iff_of_true rfl ?_
      by_cases zero : record.index = 0
      · exact .inl (.inl zero.symm)
      · refine .inr ⟨by simp, ?_⟩
        rintro (same | member)
        · exact start same.symm
        · have later := behind 1 member
          omega

/-! ## Rows -/

theorem firstGap?_ofRecords_eq_none_iff :
    firstGap? 1 (ofRecords records).records = none ↔ ∃ count, indices records = Finset.Icc 1 count := by
  rw [firstGap?_eq_none_iff, indices_ofRecords, length_ofRecords, sort_eq_range'_iff]
  constructor
  · exact fun interval => ⟨_, interval⟩
  · rintro ⟨count, interval⟩
    rw [interval, Nat.card_Icc, Nat.add_sub_cancel]

/-- A complete row has the last record of each index, in the order of the indices. -/
theorem records_ofRecords_of_interval {count : Nat} (interval : indices records = Finset.Icc 1 count) :
    (ofRecords records).records.map some = (List.range' 1 count).map (lastAt? records) := by
  have card : (indices records).card = count := by rw [interval, Nat.card_Icc, Nat.add_sub_cancel]
  have counting : (ofRecords records).records.map (·.index) = List.range' 1 count := by
    rw [indices_ofRecords, ← card]
    exact (sort_eq_range'_iff _).mpr (by rw [card, interval])
  rw [← counting, List.map_map]
  apply List.map_congr_left
  intro record member
  rw [Function.comp_apply, ← find?_ofRecords, find?_of_mem (ofRecords records).sorted member]

theorem row_eq_ok_iff (table : BindingTable) (row : List ParameterRecord) :
    table.row = .ok row ↔ firstGap? 1 table.records = none ∧ row = table.records := by
  unfold BindingTable.row
  cases firstGap? 1 table.records <;> simp [eq_comm]

theorem row_eq_error_iff (table : BindingTable) (index : Nat) :
    table.row = .error (.missingParameter index) ↔ firstGap? 1 table.records = some index := by
  unfold BindingTable.row
  cases firstGap? 1 table.records <;> simp

/-- Records are set in any order and at any indices, then the row is ended, which leaves nothing of it. It is complete
exactly if the bound indices are one, two and so on. The parameter that is named otherwise is the least one without a
value, unless the first parameter has one and index zero does too. -/
theorem takeRow_names_missing_iff (records : List ParameterRecord) :
    let bound := indices records
    let ended := takeRow.on (ofRecords records)
    ended.2 = {} ∧
      (∀ row, ended.1 = .ok row ↔ ∃ count, bound = Finset.Icc 1 count ∧
        row.map some = (List.range' 1 count).map (lastAt? records)) ∧
      ((∃ index, ended.1 = .error (.missingParameter index) ∧ IsLeast {missing | 0 < missing ∧ missing ∉ bound} index) ↔
        (¬∃ count, bound = Finset.Icc 1 count) ∧ ¬(0 ∈ bound ∧ 1 ∈ bound)) ∧
      (ended.1 = .error (.missingParameter 1) ↔ 0 ∈ bound ∨ bound.Nonempty ∧ 1 ∉ bound) := by
  intro bound ended
  have sorted := (ofRecords records).sorted
  have some_ : (ofRecords records).records ≠ [] ↔ bound.Nonempty := by
    rw [← List.length_pos_iff, length_ofRecords, Finset.card_pos]
  have one : firstGap? 1 (ofRecords records).records = some 1 ↔ 0 ∈ bound ∨ bound.Nonempty ∧ 1 ∉ bound := by
    rw [firstGap?_eq_one_iff sorted, mem_ofRecords_iff, mem_ofRecords_iff, some_]
  simp only [ended, on_takeRow, row_eq_ok_iff, row_eq_error_iff, firstGap?_ofRecords_eq_none_iff]
  refine ⟨trivial, fun row => ?_, ?_, one⟩
  · constructor
    · rintro ⟨⟨count, interval⟩, rfl⟩
      exact ⟨count, interval, records_ofRecords_of_interval interval⟩
    · rintro ⟨count, interval, values⟩
      refine ⟨⟨count, interval⟩, ?_⟩
      rw [← records_ofRecords_of_interval interval] at values
      exact List.map_injective_iff.mpr (Option.some_injective _) values
  · rw [← firstGap?_ofRecords_eq_none_iff, ← ne_eq, Option.ne_none_iff_exists']
    constructor
    · rintro ⟨index, gap, least⟩
      refine ⟨⟨index, gap⟩, fun ⟨zero, first⟩ => ?_⟩
      rw [one.mpr (.inl zero)] at gap
      obtain rfl := Option.some.inj gap
      exact least.1.2 first
    · rintro ⟨⟨index, gap⟩, apart⟩
      refine ⟨index, gap, ?_⟩
      by_cases zero : 0 ∈ bound
      · rw [one.mpr (.inl zero)] at gap
        obtain rfl := Option.some.inj gap
        exact ⟨⟨Nat.one_pos, fun first => apart ⟨zero, first⟩⟩, fun missing isMissing => isMissing.1⟩
      · have inside : ∀ record ∈ (ofRecords records).records, 1 ≤ record.index := by
          intro record member
          refine Nat.one_le_iff_ne_zero.mpr fun same => zero ?_
          exact (mem_ofRecords_iff records 0).mp (List.mem_map.mpr ⟨record, member, same⟩)
        have least := isLeast_of_firstGap? sorted inside gap
        simp only [mem_ofRecords_iff] at least
        exact least

/-- The row has a value at index zero and one for its first parameter, and is refused for want of the latter. -/
theorem takeRow_names_bound_parameter :
    let records : List ParameterRecord := [.ofValue 0 (.int 7), .ofValue 1 (.int 5)]
    (takeRow.on (ofRecords records)).1 = .error (.missingParameter 1) ∧ 1 ∈ indices records ∧
      IsLeast {missing | 0 < missing ∧ missing ∉ indices records} 2 := by
  refine ⟨rfl, by decide, ⟨by decide, by decide⟩, ?_⟩
  rintro missing ⟨positive, free⟩
  have apart : missing ≠ 1 := by
    rintro rfl
    exact free (by decide)
  omega

end BindingTable

end BulkSql
