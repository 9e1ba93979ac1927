import BulkSql.Batch.Bindings

/-! # Batches of rows

Rows are kept as columns, each with one value for every row and a type that holds them all. The first row fixes the
number of columns; a row that does not fit is refused and leaves the batch as it was.
-/

namespace BulkSql

/-- The values of one parameter in all rows. -/
structure Column where
  type : SqlType
  values : List SqlValue

namespace Column

/-- A column of one row. -/
def ofRecord (record : ParameterRecord) : Column where
  type := record.type
  values := [record.value]

/-- The column with one more row, whose value the given type holds too. -/
def push (column : Column) (type : SqlType) (record : ParameterRecord) : Column where
  type
  values := column.values ++ [record.value]

/-- Columns with one more row. The first value that does not fit its column is refused; columns are counted from the
given index. -/
def pushAll : (index : Nat) → List Column → List ParameterRecord → Except SqlError (List Column)
  | index, column :: columns, record :: records =>
    match column.type.unify? record.type with
    | none => .error (.columnType index column.type record.type)
    | some type => (pushAll (index + 1) columns records).map (column.push type record :: ·)
  | _, _, _ => .ok []

theorem length_values_nil : ∀ column ∈ ([] : List Column), column.values.length = 0 := by simp

theorem length_values_of_pushAll {index rows : Nat} {columns pushed : List Column} {records : List ParameterRecord}
    (aligned : ∀ column ∈ columns, column.values.length = rows) (h : pushAll index columns records = .ok pushed) :
    ∀ column ∈ pushed, column.values.length = rows + 1 := by
  fun_induction pushAll index columns records generalizing pushed with
  | case1 => cases h
  | case2 index column columns record records type unified ih =>
    match more : pushAll (index + 1) columns records with
    | .error error => rw [more] at h; cases h
    | .ok rest =>
      rw [more] at h
      cases h
      intro member inside
      rcases List.mem_cons.mp inside with same | behind
      · subst same
        simp [push, aligned column (List.mem_cons_self ..)]
      · exact ih (fun other found => aligned other (List.mem_cons_of_mem _ found)) more member behind
  | case3 => cases h; simp

end Column

structure ColumnBatch where
  columns : List Column := []
  rows : Nat := 0
  /-- a column has one value for every row -/
  aligned : ∀ column ∈ columns, column.values.length = rows := by exact Column.length_values_nil

namespace ColumnBatch

def isEmpty (batch : ColumnBatch) : Bool := batch.rows == 0

/-- A batch of one row. -/
def ofRow (row : List ParameterRecord) : ColumnBatch where
  columns := row.map Column.ofRecord
  rows := 1
  aligned := by
    intro column inside
    obtain ⟨record, _, same⟩ := List.mem_map.mp inside
    subst same
    rfl

/-- The batch with one more row, if the row fits. -/
def push (batch : ColumnBatch) (row : List ParameterRecord) : Except SqlError ColumnBatch :=
  if batch.rows = 0 then .ok (ofRow row)
  else if row.length ≠ batch.columns.length then .error (.batchShape batch.columns.length row.length)
  else
    match pushed : Column.pushAll 1 batch.columns row with
    | .error error => .error error
    | .ok columns =>
      .ok { columns, rows := batch.rows + 1, aligned := Column.length_values_of_pushAll batch.aligned pushed }

/-- The values of every row, in the order of the rows. -/
def valueRows (batch : ColumnBatch) : List (List SqlValue) :=
  batch.columns.foldr (fun column rows => List.zipWith (· :: ·) column.values rows) (List.replicate batch.rows [])

end ColumnBatch

end BulkSql
