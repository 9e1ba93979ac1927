import BulkSql.Proofs.Batch.PlainRows

/-! # The type of a column

The type of a column is folded over its rows, but does not depend on how: it is the type of one of the values and
holds all of them. So a column has the type unknown only if nothing but nulls without a type was bound, and the type
array only if an array was bound, or a null as one.
-/

namespace BulkSql

namespace SqlType

variable {values : List SqlValue} {type : SqlType}

theorem isWidest_of_unified? (unified : unified? values = some type) : IsWidest (values.map SqlValue.sqlType) type :=
  isWidest_of_joined? (unified?_eq_joined? values ▸ unified)

/-- The type that values unify to holds each of them. -/
theorem unify?_of_unified? (unified : unified? values = some type) :
    ∀ value ∈ values, type.unify? value.sqlType = some type := fun _ member =>
  unify?_of_joined? (unified?_eq_joined? values ▸ unified) (List.mem_map_of_mem member)

/-- Values unify to no type if and only if none of them has one. -/
theorem unified?_eq_unknown_iff (unified : unified? values = some type) :
    type = unknown ↔ ∀ value ∈ values, value.sqlType = unknown := by
  rcases isWidest_of_unified? unified with ⟨rfl, untyped⟩ | ⟨typed, member, -⟩
  · exact ⟨fun _ value member => untyped _ (List.mem_map_of_mem member), fun _ => rfl⟩
  · obtain ⟨value, here, rfl⟩ := List.mem_map.mp member
    exact ⟨fun none_ => absurd none_ typed, fun untyped => untyped value here⟩

theorem unified?_eq_array_iff (unified : unified? values = some type) :
    type = array ↔ ∃ value ∈ values, value.sqlType = array := by
  constructor
  · rintro rfl
    exact List.mem_map.mp ((isWidest_of_unified? unified).resolve_left (by simp)).2.1
  · rintro ⟨value, member, isArray⟩
    have holds := unify?_of_unified? unified value member
    rw [isArray] at holds
    revert holds
    cases type <;> decide

end SqlType

theorem SqlValue.sqlType_eq_unknown_iff (value : SqlValue) : value.sqlType = .unknown ↔ value = .null .unknown := by
  cases value <;> simp [sqlType]

namespace ColumnBatch

/-- A column of a batch that took rows holds their values in order, under the type that these unify to. -/
theorem column_of_ofRows {rows : List (List ParameterRecord)} (asIs : ∀ row ∈ rows, ∀ record ∈ row, record.BoundAsIs)
    {batch : ColumnBatch} (accepted : ofRows rows = .ok batch) {place : Nat} {column : Column}
    (here : batch.columns[place]? = some column) :
    column.values.map some = rows.map (fun row => row[place]?.map (·.value)) ∧
      SqlType.unified? column.values = some column.type := by
  have same := transposes_ofRows accepted
  have inside : place < RecordRows.width rows := by
    rw [← RecordRows.length_columns, ← same.columns]
    exact (List.getElem?_eq_some_iff.mp here).1
  obtain ⟨values, unified⟩ := (same.represents asIs).column place column here
  obtain ⟨rfl, -⟩ := same.column_eq here
  refine ⟨?_, values ▸ unified⟩
  have inOrder := congrArg (List.map (Option.map (·.value))) (same.isBatch.map_some_recordsAt inside)
  simpa [RecordRows.columnAt, Function.comp_def] using inOrder

end ColumnBatch

end BulkSql
