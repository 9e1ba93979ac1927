import BulkSql.Error
import BulkSql.Value.SqlValue

/-! # Bound parameters

Values bound for the row that is being built, each under its index. Indices start at one; a row has no gaps.
-/

namespace BulkSql

/-- A value bound at an index, with the type it is bound as. -/
structure ParameterRecord where
  index : Nat
  type : SqlType
  value : SqlValue

/-- A value bound as what it is. -/
def ParameterRecord.ofValue (index : Nat) (value : SqlValue) : ParameterRecord where
  index
  type := value.sqlType
  value

/-- Put a record at its place among records in the order of their indices. It replaces the one with its index. -/
def ParameterRecord.insertInto (record : ParameterRecord) : List ParameterRecord → List ParameterRecord
  | [] => [record]
  | other :: records =>
    if record.index < other.index then record :: other :: records
    else if record.index = other.index then record :: records
    else other :: record.insertInto records

namespace ParameterRecord

theorem pairwise_nil : ([] : List ParameterRecord).Pairwise (·.index < ·.index) := .nil

theorem index_of_mem_insertInto {record member : ParameterRecord} {records : List ParameterRecord}
    (h : member ∈ record.insertInto records) : member = record ∨ member ∈ records := by
  fun_induction insertInto record records with
  | case1 => simpa using h
  | case2 => simpa using h
  | case3 other records _ _ =>
    rcases List.mem_cons.mp h with same | behind
    · exact .inl same
    · exact .inr (List.mem_cons_of_mem _ behind)
  | case4 other records _ _ ih =>
    rcases List.mem_cons.mp h with same | behind
    · exact .inr (same ▸ List.mem_cons_self ..)
    · exact (ih behind).imp_right (List.mem_cons_of_mem _)

theorem pairwise_insertInto (record : ParameterRecord) {records : List ParameterRecord}
    (sorted : records.Pairwise (·.index < ·.index)) : (record.insertInto records).Pairwise (·.index < ·.index) := by
  fun_induction insertInto record records with
  | case1 => simp
  | case2 other records before =>
    refine List.pairwise_cons.mpr ⟨fun member inside => ?_, sorted⟩
    rcases List.mem_cons.mp inside with same | behind
    · exact same ▸ before
    · exact Nat.lt_trans before ((List.pairwise_cons.mp sorted).1 member behind)
  | case3 other records _ same =>
    exact List.pairwise_cons.mpr
      ⟨fun member behind => same ▸ (List.pairwise_cons.mp sorted).1 member behind, (List.pairwise_cons.mp sorted).2⟩
  | case4 other records notBefore notSame ih =>
    obtain ⟨first, rest⟩ := List.pairwise_cons.mp sorted
    refine List.pairwise_cons.mpr ⟨fun member inside => ?_, ih rest⟩
    rcases index_of_mem_insertInto inside with same | behind
    · subst same
      omega
    · exact first member behind

end ParameterRecord

/-- Records of one row, in the order of their indices. -/
structure BindingTable where
  records : List ParameterRecord := []
  sorted : records.Pairwise (·.index < ·.index) := by exact ParameterRecord.pairwise_nil

namespace BindingTable

/-- Bind a value. The last value at an index counts. -/
def set (table : BindingTable) (record : ParameterRecord) : BindingTable where
  records := record.insertInto table.records
  sorted := record.pairwise_insertInto table.sorted

def isEmpty (table : BindingTable) : Bool := table.records.isEmpty

/-- The first index, counted from a given one, that the records miss. -/
def firstGap? : (index : Nat) → List ParameterRecord → Option Nat
  | _, [] => none
  | index, record :: records => if record.index = index then firstGap? (index + 1) records else some index

/-- The records as a row, if their indices are one, two and so on. -/
def row (table : BindingTable) : Except SqlError (List ParameterRecord) :=
  match firstGap? 1 table.records with
  | none => .ok table.records
  | some index => .error (.missingParameter index)

end BindingTable

end BulkSql
