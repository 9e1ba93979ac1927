import BulkSql.Proofs.Batch.RecordRows
import Mathlib.Data.List.Perm.Basic

/-! # The order of rows

Whether a batch takes rows depends on the types at each place only, which have to belong to one family, and not on the
order of the rows. Nor does the type that a column has in the end, which is the widest of its values; only for a varchar and
a text it is that of the value that came first.
-/

namespace BulkSql

open SqlType

namespace RecordRows

variable {rows other : RecordRows} {width : Nat}

theorem width_eq (uniform : ∀ row ∈ rows, row.length = width) (started : rows ≠ []) : rows.width = width := by
  cases rows with
  | nil => exact absurd rfl started
  | cons row rows => exact uniform row List.mem_cons_self

/-- Rows of one width are those of a batch if the types at each place belong to one family. -/
theorem isBatch_iff (uniform : ∀ row ∈ rows, row.length = width) :
    rows.IsBatch ↔ ∀ place, IsOneFamily (rows.typesAt place) := by
  constructor
  · exact fun isBatch place => (joined?_isSome_iff _).mp (isBatch.joined place)
  · refine fun one => ⟨fun row member => ?_, fun place => (joined?_isSome_iff _).mpr (one place)⟩
    rw [uniform row member, width_eq uniform (List.ne_nil_of_mem member)]

theorem typesAt_perm (perm : rows.Perm other) (place : Nat) : (rows.typesAt place).Perm (other.typesAt place) :=
  (perm.filterMap _).map _

theorem width_perm (uniform : ∀ row ∈ rows, row.length = width) (perm : rows.Perm other) : rows.width = other.width := by
  by_cases started : rows = []
  · subst started
    rw [List.nil_perm.mp perm]
  · have uniform' : ∀ row ∈ other, row.length = width := fun row member => uniform row (perm.mem_iff.mpr member)
    have started' : other ≠ [] := fun nothing => started (List.perm_nil.mp (nothing ▸ perm))
    rw [width_eq uniform started, width_eq uniform' started']

end RecordRows

/-- The order of types does not decide on their family. -/
theorem SqlType.isOneFamily_perm {types others : List SqlType} (perm : types.Perm others) :
    IsOneFamily types ↔ IsOneFamily others := by
  simp only [IsOneFamily, perm.mem_iff]

theorem SqlType.isWidest_perm {types others : List SqlType} {type : SqlType} (perm : types.Perm others) :
    IsWidest types type ↔ IsWidest others type := by
  simp only [IsWidest, perm.mem_iff]

namespace ColumnBatch

/-- Rows of one width are all taken, in whatever order they come, if and only if all types at each place but unknown belong
to one family. The columns are then of the widest types seen, whatever the order, but a varchar may stand for a text. -/
theorem ofRows_perm {rows other : RecordRows} {width : Nat} (uniform : ∀ row ∈ rows, row.length = width)
    (perm : rows.Perm other) :
    ((∃ batch, ofRows rows = .ok batch) ↔ ∃ batch, ofRows other = .ok batch) ∧
      ((∃ batch, ofRows rows = .ok batch) ↔ ∀ place, IsOneFamily (rows.typesAt place)) ∧
      ∀ batch batch', ofRows rows = .ok batch → ofRows other = .ok batch' →
        batch.columns.length = batch'.columns.length ∧
          ∀ place column column', batch.columns[place]? = some column → batch'.columns[place]? = some column' →
            IsWidest (rows.typesAt place) column.type ∧ IsWidest (rows.typesAt place) column'.type ∧
              (column.type = column'.type ∨ column.type ∈ [varchar, text] ∧ column'.type ∈ [varchar, text]) := by
  have uniform' : ∀ row ∈ other, row.length = width := fun row member => uniform row (perm.mem_iff.mpr member)
  have family place := isOneFamily_perm (RecordRows.typesAt_perm perm place)
  refine ⟨?_, ?_, fun batch batch' accepted accepted' => ?_⟩
  · rw [exists_ofRows_iff, exists_ofRows_iff, RecordRows.isBatch_iff uniform, RecordRows.isBatch_iff uniform']
    exact forall_congr' family
  · rw [exists_ofRows_iff, RecordRows.isBatch_iff uniform]
  have same := transposes_ofRows accepted
  have same' := transposes_ofRows accepted'
  refine ⟨?_, fun place column column' here here' => ?_⟩
  · rw [same.columns, same'.columns, RecordRows.length_columns, RecordRows.length_columns,
      RecordRows.width_perm uniform perm]
  · have widest := isWidest_of_joined? (same.column_eq here).2
    have widest' := isWidest_of_joined? (same'.column_eq here').2
    rw [← isWidest_perm (RecordRows.typesAt_perm perm place)] at widest'
    exact ⟨widest, widest', widest.eq_or widest' ((RecordRows.isBatch_iff uniform).mp same.isBatch place)⟩

/-- Integers of three widths give the widest in both orders, a varchar and a text the first. -/
theorem ofRows_perm_reversed :
    let rows := [
      [.ofValue 1 (.short 1), .ofValue 2 (.null .unknown)],
      [.ofValue 1 (.null .unknown), .ofValue 2 (.string "a")],
      [.ofValue 1 (.long 3), .ofValue 2 (.clob "b")]]
    (∀ row ∈ rows, row.length = 2) ∧ rows.Perm rows.reverse ∧
      (∃ batch batch', ofRows rows = .ok batch ∧ ofRows rows.reverse = .ok batch' ∧
        batch.columns.map Column.type = [int8, varchar] ∧ batch'.columns.map Column.type = [int8, text] ∧
        ∀ column column', batch.columns[1]? = some column → batch'.columns[1]? = some column' →
          column.type = column'.type ∨ column.type ∈ [varchar, text] ∧ column'.type ∈ [varchar, text]) := by
  intro rows
  have uniform : ∀ row ∈ rows, row.length = 2 := by simp [rows]
  have perm : rows.Perm rows.reverse := (List.reverse_perm rows).symm
  refine ⟨uniform, perm, _, _, rfl, rfl, rfl, rfl, fun column column' here here' => ?_⟩
  exact ((ofRows_perm uniform perm).2.2 _ _ rfl rfl).2 1 column column' here here' |>.2.2

end ColumnBatch

end BulkSql
