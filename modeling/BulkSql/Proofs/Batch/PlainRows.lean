import BulkSql.Proofs.Batch.RecordRows

/-! # A batch as a list of rows

The plain view of a batch whose values are bound as what they are is the list of its rows of values. A row is accepted if
it is as wide as the rows before it and each of its values has a type that unifies with those above it.
-/

namespace BulkSql

/-- The type that some values unify to from the first to the last, if they do. -/
def SqlType.unified? (values : List SqlValue) : Option SqlType :=
  values.foldlM (fun type value => type.unify? value.sqlType) .unknown

theorem SqlType.unified?_eq_joined? (values : List SqlValue) : unified? values = joined? (values.map SqlValue.sqlType) := by
  rw [unified?, joined?, List.foldlM_map]

/-- Rows of values in order. -/
abbrev PlainRows := List (List SqlValue)

namespace PlainRows

/-- The width of the first row, which all others share. -/
def width (rows : PlainRows) : Nat := (rows.head?.map List.length).getD 0

/-- The values at a place of the rows, from the first row to the last. -/
def column (rows : PlainRows) (index : Nat) : List SqlValue := rows.filterMap (·[index]?)

/-- The type that the values of a column unify to. -/
def columnType (rows : PlainRows) (index : Nat) : SqlType := (SqlType.unified? (rows.column index)).getD .unknown

/-- A row fits the rows before it. -/
def accepts (rows : PlainRows) (row : List SqlValue) : Bool :=
  (rows.isEmpty || row.length == rows.width) &&
    row.zipIdx.all fun (value, index) => ((rows.columnType index).unify? value.sqlType).isSome

def Uniform (rows : PlainRows) : Prop := ∀ row ∈ rows, row.length = rows.width

theorem accepts_iff (rows : PlainRows) (row : List SqlValue) :
    rows.accepts row ↔ (rows = [] ∨ row.length = rows.width) ∧
      ∀ index value, row[index]? = some value → ((rows.columnType index).unify? value.sqlType).isSome := by
  simp only [accepts, Bool.and_eq_true, Bool.or_eq_true, List.isEmpty_iff, beq_iff_eq, List.all_eq_true]
  refine and_congr_right fun _ => ⟨fun all index value here => ?_, fun all pair member => ?_⟩
  · exact all (value, index) (List.mk_mem_zipIdx_iff_getElem?.mpr here)
  · exact all pair.2 pair.1 (List.mk_mem_zipIdx_iff_getElem?.mp member)

end PlainRows

/-- The value is bound as what it is. -/
def ParameterRecord.BoundAsIs (record : ParameterRecord) : Prop := record.type = record.value.sqlType

theorem ParameterRecord.boundAsIs_ofValue (index : Nat) (value : SqlValue) :
    (ParameterRecord.ofValue index value).BoundAsIs := rfl

namespace RecordRows

variable {rows : RecordRows} {place : Nat}

theorem width_values (rows : RecordRows) : PlainRows.width (rows.map ParameterRecord.values) = rows.width := by
  cases rows with
  | nil => rfl
  | cons row rows => exact List.length_map _

theorem column_values (rows : RecordRows) (place : Nat) :
    PlainRows.column (rows.map ParameterRecord.values) place = (rows.recordsAt place).map (·.value) := by
  simp [PlainRows.column, recordsAt, ParameterRecord.values, List.filterMap_map, List.map_filterMap, Function.comp_def]

/-- Where values are bound as what they are, their types are those at their place. -/
theorem unified?_column_values (asIs : ∀ row ∈ rows, ∀ record ∈ row, record.BoundAsIs) (place : Nat) :
    SqlType.unified? (PlainRows.column (rows.map ParameterRecord.values) place) = SqlType.joined? (rows.typesAt place) := by
  rw [SqlType.unified?_eq_joined?, column_values, List.map_map, typesAt]
  congr 1
  apply List.map_congr_left
  intro record member
  obtain ⟨row, inRows, here⟩ := List.mem_filterMap.mp member
  exact (asIs row inRows record (List.mem_of_getElem? here)).symm

end RecordRows

namespace ColumnBatch

/-- A batch stands for the rows whose transposed list its columns are. -/
structure Represents (batch : ColumnBatch) (rows : PlainRows) : Prop where
  count : batch.rows = rows.length
  uniform : rows.Uniform
  width : batch.columns.length = rows.width
  column : ∀ index column, batch.columns[index]? = some column →
    column.values = rows.column index ∧ SqlType.unified? (rows.column index) = some column.type

theorem represents_nil : ColumnBatch.Represents {} [] where
  count := rfl
  uniform := by simp [PlainRows.Uniform]
  width := rfl
  column := by simp

theorem Represents.columnType_eq {batch : ColumnBatch} {rows : PlainRows} (same : batch.Represents rows) {index : Nat}
    {column : Column} (here : batch.columns[index]? = some column) : rows.columnType index = column.type := by
  rw [PlainRows.columnType, (same.column index column here).2, Option.getD_some]

/-- Values bound at one, two and so on, each as what it is. -/
def recordsOf (row : List SqlValue) : List ParameterRecord :=
  (row.zipIdx 1).map fun (value, index) => .ofValue index value

variable {batch : ColumnBatch}

/-- A batch of values that are bound as what they are stands for their rows. -/
theorem Transposes.represents {rows : RecordRows} (same : batch.Transposes rows)
    (asIs : ∀ row ∈ rows, ∀ record ∈ row, record.BoundAsIs) : batch.Represents (rows.map ParameterRecord.values) where
  count := by rw [same.count, List.length_map]
  uniform := by
    rw [PlainRows.Uniform, RecordRows.width_values]
    exact List.forall_mem_map.mpr fun row member => (List.length_map _).trans (same.isBatch.uniform row member)
  width := by rw [same.columns, RecordRows.length_columns, RecordRows.width_values]
  column := by
    intro place column here
    obtain ⟨rfl, joined⟩ := same.column_eq here
    exact ⟨(RecordRows.column_values rows place).symm, (RecordRows.unified?_column_values asIs place).trans joined⟩

theorem values_recordsOf (row : List SqlValue) : ParameterRecord.values (recordsOf row) = row := by
  simp [ParameterRecord.values, recordsOf, ParameterRecord.ofValue, Function.comp_def]

theorem map_values_recordsOf (rows : PlainRows) : (rows.map recordsOf).map ParameterRecord.values = rows := by
  simp [values_recordsOf, Function.comp_def]

theorem boundAsIs_recordsOf (rows : PlainRows) : ∀ row ∈ rows.map recordsOf, ∀ record ∈ row, record.BoundAsIs := by
  simp only [List.forall_mem_map, recordsOf]
  exact fun _ _ _ _ => ParameterRecord.boundAsIs_ofValue ..

theorem columnAt_recordsOf (rows : PlainRows) (place : Nat) :
    RecordRows.columnAt (rows.map recordsOf) place = { type := rows.columnType place, values := rows.column place } := by
  have types := RecordRows.unified?_column_values (boundAsIs_recordsOf rows) place
  have values := RecordRows.column_values (rows.map recordsOf) place
  rw [map_values_recordsOf] at types values
  rw [RecordRows.columnAt, ← types, ← values, PlainRows.columnType]

theorem width_recordsOf (rows : PlainRows) : RecordRows.width (rows.map recordsOf) = rows.width := by
  rw [← RecordRows.width_values, map_values_recordsOf]

theorem Represents.transposes {rows : PlainRows} (same : batch.Represents rows) :
    batch.Transposes (rows.map recordsOf) where
  isBatch.uniform := by
    rw [width_recordsOf]
    exact List.forall_mem_map.mpr fun row member => by simp [recordsOf, same.uniform row member]
  isBatch.joined place := by
    rw [← RecordRows.unified?_column_values (boundAsIs_recordsOf rows), map_values_recordsOf]
    cases here : batch.columns[place]? with
    | some column => simp [(same.column place column here).2]
    | none =>
      have outside := List.getElem?_eq_none_iff.mp here
      have nothing : rows.column place = [] := List.filterMap_eq_nil_iff.mpr fun row member =>
        List.getElem?_eq_none (same.uniform row member ▸ same.width ▸ outside)
      rw [nothing]
      rfl
  columns := by
    apply List.ext_getElem?
    intro place
    cases here : batch.columns[place]? with
    | some column =>
      have inside := (List.getElem?_eq_some_iff.mp here).1
      rw [RecordRows.getElem?_columns (by rwa [width_recordsOf, ← same.width]), columnAt_recordsOf, same.columnType_eq here,
        ← (same.column place column here).1]
    | none =>
      have outside := List.getElem?_eq_none_iff.mp here
      rw [List.getElem?_eq_none (by rwa [RecordRows.length_columns, width_recordsOf, ← same.width])]
  count := by rw [same.count, List.length_map]

/-- A row fits if there is no reason to refuse it. -/
theorem refusal?_recordsOf_eq_none_iff (rows : PlainRows) (row : List SqlValue) :
    RecordRows.refusal? (rows.map recordsOf) (recordsOf row) = none ↔ rows.accepts row := by
  rw [PlainRows.accepts_iff]
  by_cases started : rows = []
  · subst started
    exact ⟨fun _ => ⟨.inl rfl, fun _ _ _ => rfl⟩, fun _ => rfl⟩
  have length : (recordsOf row).length = row.length := by simp [recordsOf]
  have record (place : Nat) : (recordsOf row)[place]? = row[place]?.map (ParameterRecord.ofValue (1 + place)) := by
    simp [recordsOf, List.getElem?_zipIdx, Option.map_map, Function.comp_def]
  rw [RecordRows.refusal?_eq_none_iff (by simpa), width_recordsOf, length, Column.clash?_eq_none_iff, or_iff_right started]
  refine and_congr_right fun wide => ⟨fun fits place value here => ?_, fun fits place column record_ inside here => ?_⟩
  · have inside : place < rows.width := wide ▸ (List.getElem?_eq_some_iff.mp here).1
    have unifies := fits place _ (.ofValue (1 + place) value)
      (RecordRows.getElem?_columns (by rwa [width_recordsOf])) (by rw [record, here, Option.map_some])
    rwa [columnAt_recordsOf] at unifies
  · rw [record, Option.map_eq_some_iff] at here
    obtain ⟨value, here, rfl⟩ := here
    have inside' : place < rows.width := wide ▸ (List.getElem?_eq_some_iff.mp here).1
    cases (RecordRows.getElem?_columns (by rwa [width_recordsOf])).symm.trans inside
    rw [columnAt_recordsOf]
    exact fits place value here

/-- A row that fits is pushed, and the batch then stands for the rows with it at the end. -/
theorem Represents.push_of_accepts {rows : PlainRows} (same : batch.Represents rows) {row : List SqlValue}
    (fits : rows.accepts row) : ∃ after, batch.push (recordsOf row) = .ok after ∧ after.Represents (rows ++ [row]) := by
  have noReason := (refusal?_recordsOf_eq_none_iff rows row).mpr fits
  rcases same.transposes.push_cases (recordsOf row) with ⟨error, refused, -⟩ | ⟨-, after, done, transposes⟩
  · cases refused.symm.trans noReason
  · have extended : rows.map recordsOf ++ [recordsOf row] = (rows ++ [row]).map recordsOf := by simp
    rw [extended] at transposes
    have represents := transposes.represents (boundAsIs_recordsOf _)
    rw [map_values_recordsOf] at represents
    exact ⟨after, done, represents⟩

/-- A row that does not fit is refused. -/
theorem Represents.push_of_refused {rows : PlainRows} (same : batch.Represents rows) {row : List SqlValue}
    (misfit : rows.accepts row = false) : ∃ error, batch.push (recordsOf row) = .error error := by
  rcases same.transposes.push_cases (recordsOf row) with ⟨error, -, failed⟩ | ⟨fits, -⟩
  · exact ⟨error, failed⟩
  · rw [(refusal?_recordsOf_eq_none_iff rows row).mp fits] at misfit
    cases misfit

/-- Transposing the columns gives back the rows. -/
theorem Represents.valueRows_eq {rows : PlainRows} (same : batch.Represents rows) : batch.valueRows = rows := by
  rw [same.transposes.valueRows_eq, map_values_recordsOf]

end ColumnBatch

end BulkSql
