import BulkSql.Batch.ColumnBatch
import BulkSql.Proofs.Batch.TypeFamilies
import Mathlib.Data.List.Basic

/-! # A batch as transposed rows

The columns of a batch are the transposed list of the rows that it took, each of the type that the types at its place are
joined to. A row that can be added to the list is taken; any other is refused for the first reason there is, and changes
nothing. Transposing the columns gives the rows again.
-/

namespace BulkSql

/-- The values of a row. -/
def ParameterRecord.values (row : List ParameterRecord) : List SqlValue := row.map (·.value)

namespace Column

/-- A column with one more row, under the type that holds the new value too. -/
def extend (column : Column) (record : ParameterRecord) : Column :=
  column.push ((column.type.unify? record.type).getD column.type) record

/-- Why records do not fit columns: the first that has a type of another family. Columns are counted from the given
index. -/
def clash? (first : Nat) (columns : List Column) (records : List ParameterRecord) : Option SqlError :=
  ((columns.zip records).zipIdx first).findSome? fun ((column, record), index) =>
    if (column.type.unify? record.type).isNone then some (.columnType index column.type record.type) else none

variable {first : Nat} {columns : List Column} {records : List ParameterRecord}

theorem clash?_eq_none_iff :
    clash? first columns records = none ↔
      ∀ (place : Nat) (column : Column) (record : ParameterRecord), columns[place]? = some column →
        records[place]? = some record → (column.type.unify? record.type).isSome := by
  simp only [clash?, List.findSome?_eq_none_iff, ite_eq_right_iff, reduceCtorEq, imp_false, Bool.not_eq_true,
    Option.isNone_eq_false_iff]
  constructor
  · intro all place column record here bound
    have pair : (columns.zip records)[place]? = some (column, record) := List.getElem?_zip_eq_some.mpr ⟨here, bound⟩
    exact all ((column, record), first + place) (List.mem_of_getElem? (by rw [List.getElem?_zipIdx, pair]; rfl))
  · rintro all ⟨⟨column, record⟩, index⟩ member
    obtain ⟨place, here⟩ := List.getElem?_of_mem member
    rw [List.getElem?_zipIdx, Option.map_eq_some_iff] at here
    obtain ⟨pair, here, same⟩ := here
    cases same
    obtain ⟨one, two⟩ := List.getElem?_zip_eq_some.mp here
    exact all place column record one two

theorem pushAll_eq (first : Nat) (columns : List Column) (records : List ParameterRecord) :
    pushAll first columns records =
      match clash? first columns records with
      | some error => .error error
      | none => .ok (List.zipWith extend columns records) := by
  fun_induction pushAll first columns records with
  | case1 first column columns record records clash => simp [clash?, clash]
  | case2 first column columns record records type unified ih =>
    have later : clash? first (column :: columns) (record :: records) = clash? (first + 1) columns records := by
      simp [clash?, unified]
    rw [ih, later, List.zipWith_cons_cons, extend, unified]
    cases clash? (first + 1) columns records <;> rfl
  | case3 columns first records short =>
    cases columns with
    | nil => rfl
    | cons column columns =>
      cases records with
      | nil => rfl
      | cons record records => exact (short _ _ _ _ rfl rfl).elim

end Column

/-- Rows of records in order. -/
abbrev RecordRows := List (List ParameterRecord)

namespace RecordRows

/-- The width of the first row, which all others share. -/
def width (rows : RecordRows) : Nat := (rows.head?.map List.length).getD 0

/-- The records at a place of the rows, from the first row to the last. -/
def recordsAt (rows : RecordRows) (place : Nat) : List ParameterRecord := rows.filterMap (·[place]?)

def typesAt (rows : RecordRows) (place : Nat) : List SqlType := (rows.recordsAt place).map (·.type)

def columnAt (rows : RecordRows) (place : Nat) : Column where
  type := (SqlType.joined? (rows.typesAt place)).getD .unknown
  values := (rows.recordsAt place).map (·.value)

/-- The transposed rows. -/
def columns (rows : RecordRows) : List Column := (List.range rows.width).map rows.columnAt

/-- Why a row is refused behind other rows, if it is. -/
def refusal? (rows : RecordRows) (row : List ParameterRecord) : Option SqlError :=
  if rows.isEmpty then none
  else if row.length ≠ rows.width then some (.batchShape rows.width row.length)
  else Column.clash? 1 rows.columns row

/-- The rows of one batch: they share their width, and the types at each place can be joined. -/
structure IsBatch (rows : RecordRows) : Prop where
  uniform : ∀ row ∈ rows, row.length = rows.width
  joined : ∀ place, (SqlType.joined? (rows.typesAt place)).isSome

variable {rows : RecordRows} {row : List ParameterRecord} {record : ParameterRecord} {place : Nat}

theorem isBatch_nil : IsBatch [] where
  uniform := List.forall_mem_nil _
  joined _ := rfl

theorem length_columns (rows : RecordRows) : rows.columns.length = rows.width := by simp [columns]

theorem getElem?_columns (inside : place < rows.width) : rows.columns[place]? = some (rows.columnAt place) := by
  simp [columns, inside]

/-! ## One row more -/

theorem width_append (started : rows ≠ []) (row : List ParameterRecord) : (rows ++ [row]).width = rows.width := by
  cases rows with
  | nil => exact absurd rfl started
  | cons first rows => rfl

theorem recordsAt_append (rows : RecordRows) (row : List ParameterRecord) (place : Nat) :
    (rows ++ [row]).recordsAt place = rows.recordsAt place ++ row[place]?.toList := by
  cases here : row[place]? <;> simp [recordsAt, here]

theorem joined?_append (here : row[place]? = some record) :
    SqlType.joined? ((rows ++ [row]).typesAt place) =
      (SqlType.joined? (rows.typesAt place)).bind (·.unify? record.type) := by
  rw [typesAt, recordsAt_append, here, Option.toList_some, List.map_append, List.map_singleton, SqlType.joined?_append]
  rfl

theorem typesAt_append_of_none (here : row[place]? = none) : (rows ++ [row]).typesAt place = rows.typesAt place := by
  rw [typesAt, recordsAt_append, here, Option.toList_none, List.append_nil]
  rfl

/-- At a place of the row, the types can be joined with its own type or not as the column's type can. -/
theorem isSome_joined?_append (here : row[place]? = some record) (joined : (SqlType.joined? (rows.typesAt place)).isSome) :
    (SqlType.joined? ((rows ++ [row]).typesAt place)).isSome ↔
      ((rows.columnAt place).type.unify? record.type).isSome := by
  obtain ⟨type, found⟩ := Option.isSome_iff_exists.mp joined
  rw [joined?_append here, columnAt, found, Option.bind_some, Option.getD_some]

theorem refusal?_eq_none_iff (started : rows ≠ []) :
    rows.refusal? row = none ↔ row.length = rows.width ∧ Column.clash? 1 rows.columns row = none := by
  rw [refusal?, if_neg (mt List.isEmpty_iff.mp started)]
  by_cases wide : row.length = rows.width <;> simp [wide]

/-- A row as wide as the rows before it fits if the types at each place can be joined with its own. -/
theorem clash?_columns_eq_none_iff (isBatch : rows.IsBatch) (wide : row.length = rows.width) :
    Column.clash? 1 rows.columns row = none ↔ ∀ place, (SqlType.joined? ((rows ++ [row]).typesAt place)).isSome := by
  have inside {place : Nat} {record : ParameterRecord} (here : row[place]? = some record) : place < rows.width :=
    wide ▸ (List.getElem?_eq_some_iff.mp here).1
  rw [Column.clash?_eq_none_iff]
  constructor
  · intro fits place
    cases here : row[place]? with
    | none =>
      rw [typesAt_append_of_none here]
      exact isBatch.joined place
    | some record =>
      have unifies := fits place _ record (getElem?_columns (inside here)) here
      exact (isSome_joined?_append here (isBatch.joined place)).mpr unifies
  · intro joined place column record column? here
    cases (getElem?_columns (inside here)).symm.trans column?
    exact (isSome_joined?_append here (isBatch.joined place)).mp (joined place)

/-- The rows before the last are those of a batch, too. -/
theorem IsBatch.of_append (isBatch : (rows ++ [row]).IsBatch) (started : rows ≠ []) : rows.IsBatch where
  uniform other member := width_append started row ▸ isBatch.uniform other (List.mem_append_left _ member)
  joined place := by
    have joined := isBatch.joined place
    cases here : row[place]? with
    | none => rwa [typesAt_append_of_none here] at joined
    | some record =>
      rw [joined?_append here] at joined
      cases found : SqlType.joined? (rows.typesAt place) with
      | none => simp [found] at joined
      | some type => rfl

/-- A row can be added to the rows of a batch if there is no reason to refuse it. -/
theorem isBatch_append : (rows ++ [row]).IsBatch ↔ rows.IsBatch ∧ rows.refusal? row = none := by
  by_cases started : rows = []
  · subst started
    refine ⟨fun _ => ⟨isBatch_nil, rfl⟩, fun _ => ⟨by simp [width], fun place => ?_⟩⟩
    cases here : row[place]? with
    | none =>
      rw [typesAt_append_of_none here]
      exact isBatch_nil.joined place
    | some record => exact (isSome_joined?_append here (isBatch_nil.joined place)).mpr rfl
  rw [refusal?_eq_none_iff started]
  constructor
  · intro isBatch
    have before := isBatch.of_append started
    have wide := isBatch.uniform row (List.mem_append_right _ List.mem_cons_self)
    rw [width_append started] at wide
    exact ⟨before, wide, (clash?_columns_eq_none_iff before wide).mpr isBatch.joined⟩
  · rintro ⟨before, wide, fits⟩
    refine ⟨?_, (clash?_columns_eq_none_iff before wide).mp fits⟩
    rw [width_append started]
    exact List.forall_mem_append.mpr ⟨before.uniform, List.forall_mem_singleton.mpr wide⟩

/-- A column with one more row. -/
theorem columnAt_append (joined : (SqlType.joined? (rows.typesAt place)).isSome) (here : row[place]? = some record)
    (unifies : ((rows.columnAt place).type.unify? record.type).isSome) :
    (rows ++ [row]).columnAt place = (rows.columnAt place).extend record := by
  obtain ⟨type, found⟩ := Option.isSome_iff_exists.mp joined
  have before : rows.columnAt place = { type, values := (rows.recordsAt place).map (·.value) } := by
    rw [columnAt, found, Option.getD_some]
  rw [before] at unifies ⊢
  obtain ⟨wider, unified⟩ := Option.isSome_iff_exists.mp unifies
  rw [columnAt, joined?_append here, found, Option.bind_some, recordsAt_append, here]
  simp [Column.extend, Column.push, unified]

theorem columns_append (isBatch : rows.IsBatch) (started : rows ≠ []) (fits : rows.refusal? row = none) :
    (rows ++ [row]).columns = List.zipWith Column.extend rows.columns row := by
  obtain ⟨wide, noClash⟩ := (refusal?_eq_none_iff started).mp fits
  apply List.ext_getElem?
  intro place
  rw [List.getElem?_zipWith]
  by_cases inside : place < rows.width
  · have here := List.getElem?_eq_getElem (wide.symm ▸ inside : place < row.length)
    have column := getElem?_columns inside
    have unifies := Column.clash?_eq_none_iff.mp noClash place _ _ column here
    rw [getElem?_columns (by rwa [width_append started]), column, here, columnAt_append (isBatch.joined place) here unifies]
  · have outside := Nat.le_of_not_lt inside
    rw [List.getElem?_eq_none (by rwa [length_columns, width_append started]),
      List.getElem?_eq_none (by rwa [length_columns] : rows.columns.length ≤ place)]

theorem columns_singleton (row : List ParameterRecord) : RecordRows.columns [row] = row.map Column.ofRecord := by
  apply List.ext_getElem?
  intro place
  rw [List.getElem?_map]
  by_cases inside : place < row.length
  · rw [getElem?_columns inside, List.getElem?_eq_getElem inside]
    simp [columnAt, typesAt, recordsAt, inside, SqlType.joined?_singleton, Column.ofRecord]
  · have outside := Nat.le_of_not_lt inside
    rw [List.getElem?_eq_none (by rwa [length_columns]), List.getElem?_eq_none outside]
    rfl

/-- All rows have a record at a place inside their width. -/
theorem IsBatch.map_some_recordsAt (isBatch : rows.IsBatch) (inside : place < rows.width) :
    (rows.recordsAt place).map some = rows.map (·[place]?) := by
  have present : ∀ row ∈ rows, (row[place]?).isSome := by
    intro row member
    rw [List.getElem?_eq_getElem (isBatch.uniform row member ▸ inside)]
    rfl
  clear isBatch inside
  induction rows with
  | nil => rfl
  | cons row rows ih =>
    obtain ⟨record, here⟩ := Option.isSome_iff_exists.mp (present row List.mem_cons_self)
    have later := ih fun other member => present other (List.mem_cons_of_mem _ member)
    have first : RecordRows.recordsAt (row :: rows) place = record :: RecordRows.recordsAt rows place :=
      List.filterMap_cons_some here
    rw [first, List.map_cons, later, List.map_cons, here]

/-- Every column has a value for a row, which is the one at its place. -/
theorem IsBatch.map_values_columns (isBatch : rows.IsBatch) {number : Nat} (found : rows[number]? = some row) :
    rows.columns.map (·.values[number]?) = (ParameterRecord.values row).map some := by
  have wide : row.length = rows.width := isBatch.uniform row (List.mem_of_getElem? found)
  apply List.ext_getElem?
  intro place
  rw [List.getElem?_map, List.getElem?_map, ParameterRecord.values, List.getElem?_map]
  by_cases inside : place < rows.width
  · have records := congrArg (·[number]?) (isBatch.map_some_recordsAt inside)
    have here := List.getElem?_eq_getElem (wide ▸ inside : place < row.length)
    simp only [List.getElem?_map, found, Option.map_some, here, Option.map_eq_some_iff, Option.some.injEq,
      exists_eq_right] at records
    rw [getElem?_columns inside, here, Option.map_some, columnAt, List.getElem?_map, records]
    rfl
  · have outside := Nat.le_of_not_lt inside
    rw [List.getElem?_eq_none (by rwa [length_columns]), List.getElem?_eq_none (by rwa [wide])]
    rfl

end RecordRows

namespace ColumnBatch

/-- The columns of a batch are rows, transposed. -/
structure Transposes (batch : ColumnBatch) (rows : RecordRows) : Prop where
  isBatch : rows.IsBatch
  columns : batch.columns = rows.columns
  count : batch.rows = rows.length

variable {batch after : ColumnBatch} {rows : RecordRows} {row : List ParameterRecord} {place : Nat} {column : Column}

theorem transposes_nil : ColumnBatch.Transposes {} [] where
  isBatch := RecordRows.isBatch_nil
  columns := rfl
  count := rfl

/-- A column has the type that the types at its place are joined to. -/
theorem Transposes.column_eq (same : batch.Transposes rows) (here : batch.columns[place]? = some column) :
    column = rows.columnAt place ∧ SqlType.joined? (rows.typesAt place) = some column.type := by
  rw [same.columns] at here
  have inside : place < rows.width := RecordRows.length_columns rows ▸ (List.getElem?_eq_some_iff.mp here).1
  cases (RecordRows.getElem?_columns inside).symm.trans here
  obtain ⟨type, joined⟩ := Option.isSome_iff_exists.mp (same.isBatch.joined place)
  rw [RecordRows.columnAt, joined, Option.getD_some]
  exact ⟨rfl, rfl⟩

/-- What is done with a row behind others. -/
theorem push_cases (started : batch.rows ≠ 0) (row : List ParameterRecord) :
    (row.length ≠ batch.columns.length ∧ batch.push row = .error (.batchShape batch.columns.length row.length)) ∨
      (row.length = batch.columns.length ∧ ∃ error, Column.clash? 1 batch.columns row = some error ∧
        batch.push row = .error error) ∨
      (row.length = batch.columns.length ∧ Column.clash? 1 batch.columns row = none ∧ ∃ after, batch.push row = .ok after ∧
        after.columns = List.zipWith Column.extend batch.columns row ∧ after.rows = batch.rows + 1) := by
  have pushed := Column.pushAll_eq 1 batch.columns row
  unfold push
  rw [if_neg started]
  by_cases wide : row.length = batch.columns.length
  · rw [if_neg (not_not.mpr wide)]
    refine .inr ?_
    cases clash : Column.clash? 1 batch.columns row with
    | some error =>
      rw [clash] at pushed
      split
      · next failed =>
        cases failed.symm.trans pushed
        exact .inl ⟨wide, _, rfl, rfl⟩
      · next done => cases done.symm.trans pushed
    | none =>
      rw [clash] at pushed
      split
      · next failed => cases failed.symm.trans pushed
      · next done => exact .inr ⟨wide, rfl, _, rfl, Except.ok.inj (done.symm.trans pushed), rfl⟩
  · exact .inl ⟨wide, if_pos wide⟩

/-- A row is refused for the reason that there is against it behind the rows before it; else it is one of them. -/
theorem Transposes.push_cases (same : batch.Transposes rows) (row : List ParameterRecord) :
    (∃ error, rows.refusal? row = some error ∧ batch.push row = .error error) ∨
      (rows.refusal? row = none ∧ ∃ after, batch.push row = .ok after ∧ after.Transposes (rows ++ [row])) := by
  by_cases started : rows = []
  · subst started
    refine .inr ⟨rfl, ofRow row, if_pos same.count, RecordRows.isBatch_append.mpr ⟨RecordRows.isBatch_nil, rfl⟩, ?_, rfl⟩
    exact (RecordRows.columns_singleton row).symm
  have counted : batch.rows ≠ 0 := by rwa [same.count, Ne, List.length_eq_zero_iff]
  rw [RecordRows.refusal?, if_neg (mt List.isEmpty_iff.mp started)]
  have cases_ := ColumnBatch.push_cases counted row
  rw [same.columns, RecordRows.length_columns] at cases_
  rcases cases_ with ⟨wide, failed⟩ | ⟨wide, error, clash, failed⟩ | ⟨wide, noClash, after, done, columns, count⟩
  · exact .inl ⟨_, if_pos wide, failed⟩
  · exact .inl ⟨error, by rw [if_neg (not_not.mpr wide), clash], failed⟩
  · have fits := (RecordRows.refusal?_eq_none_iff started).mpr ⟨wide, noClash⟩
    refine .inr ⟨by rw [if_neg (not_not.mpr wide), noClash], after, done, ?_, ?_, ?_⟩
    · exact RecordRows.isBatch_append.mpr ⟨same.isBatch, fits⟩
    · rw [columns, RecordRows.columns_append same.isBatch started fits]
    · rw [count, same.count, List.length_append, List.length_singleton]

/-! ## Transposing back -/

/-- The rows that columns of one length make up. -/
theorem getElem?_foldr_zipWith {columns : List Column} {count : Nat}
    (aligned : ∀ column ∈ columns, column.values.length = count) {number : Nat} (inside : number < count) :
    (columns.foldr (fun column rows => List.zipWith (· :: ·) column.values rows) (List.replicate count []))[number]? =
      some (columns.filterMap (·.values[number]?)) := by
  induction columns with
  | nil => simp [inside]
  | cons column columns ih =>
    have here : number < column.values.length := by rw [aligned column (List.mem_cons_self ..)]; exact inside
    rw [List.foldr_cons, List.getElem?_zipWith, ih fun other member => aligned other (List.mem_cons_of_mem _ member),
      List.filterMap_cons, List.getElem?_eq_getElem here]

theorem length_valueRows (batch : ColumnBatch) : batch.valueRows.length = batch.rows := by
  have counted : ∀ columns : List Column, (∀ column ∈ columns, column.values.length = batch.rows) →
      (columns.foldr (fun column rows => List.zipWith (· :: ·) column.values rows)
        (List.replicate batch.rows [])).length = batch.rows := by
    intro columns aligned
    induction columns with
    | nil => simp
    | cons column columns ih =>
      rw [List.foldr_cons, List.length_zipWith, ih fun other member => aligned other (List.mem_cons_of_mem _ member),
        aligned column (List.mem_cons_self ..), Nat.min_self]
  exact counted batch.columns batch.aligned

/-- Transposing the columns gives back the values of the rows. -/
theorem Transposes.valueRows_eq (same : batch.Transposes rows) : batch.valueRows = rows.map ParameterRecord.values := by
  apply List.ext_getElem?
  intro number
  rw [List.getElem?_map]
  by_cases inside : number < batch.rows
  · obtain ⟨row, found⟩ : ∃ row, rows[number]? = some row := ⟨_, List.getElem?_eq_getElem (same.count ▸ inside)⟩
    -- nothing is dropped, and each place keeps its value
    rw [valueRows, getElem?_foldr_zipWith batch.aligned inside, found, Option.map_some, same.columns,
      ← Function.id_comp fun column : Column => column.values[number]?, ← List.filterMap_map,
      same.isBatch.map_values_columns found, List.filterMap_map]
    exact congrArg some List.filterMap_some
  · rw [List.getElem?_eq_none (by rw [length_valueRows]; omega), List.getElem?_eq_none (by rw [← same.count]; omega)]
    rfl

/-! ## Many rows -/

/-- The batch that takes rows in order, if it takes them all. -/
def ofRows (rows : List (List ParameterRecord)) : Except SqlError ColumnBatch := rows.foldlM push {}

theorem ofRows_append (rows : RecordRows) (row : List ParameterRecord) :
    ofRows (rows ++ [row]) = (ofRows rows).bind (·.push row) := by
  simp only [ofRows, List.foldlM_append, List.foldlM_cons, List.foldlM_nil, bind_pure]
  rfl

theorem transposes_ofRows (accepted : ofRows rows = .ok batch) : batch.Transposes rows := by
  induction rows using List.reverseRecOn generalizing batch with
  | nil =>
    cases accepted
    exact transposes_nil
  | append_singleton rows row ih =>
    rw [ofRows_append] at accepted
    cases before : ofRows rows with
    | error error =>
      rw [before] at accepted
      cases accepted
    | ok start =>
      rw [before] at accepted
      rcases (ih before).push_cases row with ⟨error, -, failed⟩ | ⟨-, after, done, transposes⟩
      · cases failed.symm.trans accepted
      · cases done.symm.trans accepted
        exact transposes

/-- All rows are taken if they are those of a batch. -/
theorem exists_ofRows_iff : (∃ batch, ofRows rows = .ok batch) ↔ rows.IsBatch := by
  refine ⟨fun ⟨batch, accepted⟩ => (transposes_ofRows accepted).isBatch, fun isBatch => ?_⟩
  induction rows using List.reverseRecOn with
  | nil => exact ⟨_, rfl⟩
  | append_singleton rows row ih =>
    obtain ⟨isBatch, fits⟩ := RecordRows.isBatch_append.mp isBatch
    obtain ⟨before, accepted⟩ := ih isBatch
    rcases (transposes_ofRows accepted).push_cases row with ⟨error, refused, -⟩ | ⟨-, after, done, -⟩
    · cases refused.symm.trans fits
    · exact ⟨after, by rw [ofRows_append, accepted]; exact done⟩

end ColumnBatch

end BulkSql
