import BulkSql.Postgres.Statement
import BulkSql.Proofs.Batch.ColumnTypes
import BulkSql.Proofs.Postgres.Lengths
import BulkSql.Proofs.Text.Utf8

/-! # Columns as arrays

A bulk statement takes one array for each column. Every value of a column can be sent as the type of the column,
whatever its own type is, and the array holds the values as they are sent one by one, unless one of them is too long
for an array. An array is made of every column but those of arrays: these have a type that nothing names.
-/

namespace BulkSql

namespace SqlType

/-! ## The types at the server -/

/-- The type of the server with the name of a type. Nothing is sent as an array of arrays. -/
def server : SqlType → PgScalar
  | unknown | text | array => .text
  | bool => .bool
  | int2 => .int2
  | int4 => .int4
  | int8 => .int8
  | float4 => .float4
  | float8 => .float8
  | numeric => .numeric
  | varchar => .varchar
  | bytea => .bytea
  | date => .date
  | time => .time
  | timestamp => .timestamp
  | timestamptz => .timestamptz
  | uuid => .uuid

theorem pgType_name {type : SqlType} (element : type ≠ array) : PgType.ofName? type.name = some (.scalar type.server) := by
  cases type <;> first | exact absurd rfl element | decide +kernel

theorem pgType_arrayName {type : SqlType} (element : type ≠ array) :
    PgType.ofName? ('_' :: type.name) = some (.array .standard type.server) := by
  cases type <;> first | exact absurd rfl element | decide +kernel

theorem oid_server_lt (type : SqlType) : type.server.oid < Nat.pow 2 32 := by cases type <;> decide

/-- The types whose columns take values of a type. -/
def holders : SqlType → List SqlType
  | int2 => [int2, int4, int8]
  | int4 => [int4, int8]
  | float4 => [float4, float8]
  | varchar | text => [varchar, text]
  | type => [type]

theorem mem_holders {type held : SqlType} (holds : type.unify? held = some type) (typed : held ≠ unknown) :
    type ∈ held.holders := by
  have all : ∀ type ∈ SqlType.all, ∀ held ∈ SqlType.all, type.unify? held = some type → held ≠ unknown →
      type ∈ held.holders := by decide +kernel
  exact all type (mem_all type) held (mem_all held) holds typed

/-! ## The types of elements -/

/-- The name of every type but array names a type, of an untyped column the type text. -/
theorem ofName?_name (type : SqlType) :
    ofName? type.name = if type = array then none else some (if type = unknown then text else type) := by
  cases type <;> decide +kernel

end SqlType

namespace PgServer

/-- An array is made of every column that rows were taken into, unless it is a column of arrays. It has the values of
the rows in their order, under the type that all of them were unified to. -/
theorem createArray_of_ofRows {rows : List (List ParameterRecord)}
    (asIs : ∀ row ∈ rows, ∀ record ∈ row, record.BoundAsIs) {batch : ColumnBatch}
    (accepted : ColumnBatch.ofRows rows = .ok batch) {place : Nat} {column : Column}
    (here : batch.columns[place]? = some column) :
    column.values.map some = rows.map (fun row => row[place]?.map (·.value)) ∧
      (column.type = .unknown ↔ ∀ value ∈ column.values, value = .null .unknown) ∧
      (column.type = .array ↔ ∃ value ∈ column.values, value.sqlType = .array) ∧
      createArray column.type.name column.values =
        if column.type = .array then .error (.unsupportedValue "array of array")
        else .ok {
          element := if column.type = .unknown then .text else column.type
          elements := column.values } := by
  obtain ⟨inOrder, unified⟩ := ColumnBatch.column_of_ofRows asIs accepted here
  refine ⟨inOrder, ?_, SqlType.unified?_eq_array_iff unified, ?_⟩
  · rw [SqlType.unified?_eq_unknown_iff unified]
    simp only [SqlValue.sqlType_eq_unknown_iff]
  · rw [createArray, SqlType.ofName?_name]
    by_cases isArray : column.type = .array
    · rw [if_pos isArray, if_pos isArray, isArray]
      rfl
    · rw [if_neg isArray, if_neg isArray]

/-- Rows of a null without a type and of integers of two widths. -/
theorem createArray_of_ofRows_integers :
    ∃ batch column, ColumnBatch.ofRows [[.ofValue 1 (.null .unknown)], [.ofValue 1 (.int 5)], [.ofValue 1 (.short 3)]] =
        .ok batch ∧ batch.columns[0]? = some column ∧
      createArray column.type.name column.values =
        .ok { element := .int4, elements := [.null .unknown, .int 5, .short 3] } := by
  obtain ⟨batch, accepted, here⟩ : ∃ batch,
      ColumnBatch.ofRows [[.ofValue 1 (.null .unknown)], [.ofValue 1 (.int 5)], [.ofValue 1 (.short 3)]] = .ok batch ∧
        batch.columns[0]? = some { type := .int4, values := [.null .unknown, .int 5, .short 3] } := ⟨_, rfl, rfl⟩
  obtain ⟨-, -, -, array⟩ := createArray_of_ofRows (by simp [ParameterRecord.boundAsIs_ofValue]) accepted here
  exact ⟨batch, _, accepted, here, array⟩

/-- A row of a null that is bound as an array is accepted, and the array of its column is refused. -/
theorem createArray_refuses_accepted_arrays :
    ∃ batch column, ColumnBatch.ofRows [[.ofValue 1 (.null .array)]] = .ok batch ∧ batch.columns[0]? = some column ∧
      createArray column.type.name column.values = .error (.unsupportedValue "array of array") :=
  ⟨_, { type := .array, values := [.null .array] }, rfl, rfl, rfl⟩

end PgServer

namespace Wire

/-! ## Values as the type of their column -/

theorem narrow_of_fits {width : Nat} {n : Int64} (low : -(Nat.pow 256 width / 2 : Nat) ≤ n.toInt)
    (high : n.toInt < (Nat.pow 256 width / 2 : Nat)) : narrow width n = .ok (Word.encodeInt width n.toInt) := by
  rw [narrow, if_neg (Int.not_lt.mpr low), if_neg (Int.not_le.mpr high)]

/-- An integer goes into every column of integers that are at least as wide. -/
theorem integer_of_int2 {n : Int64} (low : -32768 ≤ n.toInt) (high : n.toInt < 32768) {type : SqlType}
    (wide : type ∈ SqlType.int2.holders) : ∃ bytes, integer n type.server = .ok bytes := by
  simp only [SqlType.holders, List.mem_cons, List.not_mem_nil, or_false] at wide
  rcases wide with rfl | rfl | rfl
  · exact ⟨_, narrow_of_fits low high⟩
  · exact ⟨_, narrow_of_fits (by change -2147483648 ≤ n.toInt; omega) (by change n.toInt < 2147483648; omega)⟩
  · exact ⟨_, rfl⟩

theorem integer_of_int4 {n : Int64} (low : -2147483648 ≤ n.toInt) (high : n.toInt < 2147483648) {type : SqlType}
    (wide : type ∈ SqlType.int4.holders) : ∃ bytes, integer n type.server = .ok bytes := by
  simp only [SqlType.holders, List.mem_cons, List.not_mem_nil, or_false] at wide
  rcases wide with rfl | rfl
  · exact ⟨_, narrow_of_fits low high⟩
  · exact ⟨_, rfl⟩

/-- A value can be sent as each type that holds its own, and is sent as null exactly if it is one. -/
theorem encodeScalar_of_holds {type : SqlType} {value : SqlValue} (holds : type.unify? value.sqlType = some type)
    (element : type ≠ .array) : ∃ wire, encodeScalar value type.server = .ok wire ∧ (wire = none ↔ value.isNull) := by
  have sentAs {bytes : Bytes} (notNull : value.isNull = false)
      (encoded : encodeScalar value type.server = .ok (some bytes)) :
      ∃ wire, encodeScalar value type.server = .ok wire ∧ (wire = none ↔ value.isNull) :=
    ⟨some bytes, encoded, by simp [notNull]⟩
  have sentAsInteger {n : Int64} (notNull : value.isNull = false)
      (same : encodeScalar value type.server = (integer n type.server).map some)
      (encoded : ∃ bytes, integer n type.server = .ok bytes) :
      ∃ wire, encodeScalar value type.server = .ok wire ∧ (wire = none ↔ value.isNull) := by
    obtain ⟨bytes, encoded⟩ := encoded
    exact sentAs notNull (by rw [same, encoded]; rfl)
  by_cases null : value.isNull
  · cases value with
    | null type => exact ⟨none, rfl, by simp [SqlValue.isNull]⟩
    | _ => cases null
  have typed : value.sqlType ≠ .unknown := by
    intro untyped
    rw [value.sqlType_eq_unknown_iff.mp untyped] at null
    exact null rfl
  have wide := SqlType.mem_holders holds typed
  cases value with
  | null => exact absurd rfl null
  | byte n =>
    apply sentAsInteger rfl rfl (integer_of_int2 ?_ ?_ wide)
    · have low := n.le_toInt
      rw [Int8.toInt_toInt64]
      omega
    · have high := n.toInt_lt
      rw [Int8.toInt_toInt64]
      omega
  | short n =>
    apply sentAsInteger rfl rfl (integer_of_int2 ?_ ?_ wide)
    · have low := n.le_toInt
      rw [Int16.toInt_toInt64]
      omega
    · have high := n.toInt_lt
      rw [Int16.toInt_toInt64]
      omega
  | int n =>
    apply sentAsInteger rfl rfl (integer_of_int4 ?_ ?_ wide)
    · have low := n.le_toInt
      rw [Int32.toInt_toInt64]
      omega
    · have high := n.toInt_lt
      rw [Int32.toInt_toInt64]
      omega
  | array =>
    simp only [SqlValue.sqlType, SqlType.holders, List.mem_singleton] at wide
    exact absurd wide element
  | string | clob | float =>
    simp only [SqlValue.sqlType, SqlType.holders, List.mem_cons, List.not_mem_nil, or_false] at wide
    rcases wide with rfl | rfl
    · exact sentAs rfl rfl
    · exact sentAs rfl rfl
  | long | bool | double | decimal | bytes | blob | date | time | timestamp | timestamptz | uuid =>
    simp only [SqlValue.sqlType, SqlType.holders, List.mem_singleton] at wide
    subst wide
    exact sentAs rfl rfl

/-- Values that a type holds are sent one by one. -/
theorem exists_sent {type : SqlType} (element : type ≠ .array) {values : List SqlValue}
    (holds : ∀ value ∈ values, type.unify? value.sqlType = some type) :
    ∃ sent, List.Forall₂ (fun value wire => encodeScalar value type.server = .ok wire ∧ (wire = none ↔ value.isNull))
      values sent := by
  induction values with
  | nil => exact ⟨[], .nil⟩
  | cons value values ih =>
    obtain ⟨wire, encoded⟩ := encodeScalar_of_holds (holds value (List.mem_cons_self ..)) element
    obtain ⟨sent, rest⟩ := ih fun other member => holds other (List.mem_cons_of_mem _ member)
    exact ⟨wire :: sent, .cons encoded rest⟩

/-- The array of a column says that it has nulls exactly if one of the values is a null. -/
theorem any_isNone_sent {type : PgScalar} {values : List SqlValue} {sent : List WireValue}
    (encoded : List.Forall₂ (fun value wire => encodeScalar value type = .ok wire ∧ (wire = none ↔ value.isNull))
      values sent) : sent.any (·.isNone) = values.any SqlValue.isNull := by
  induction encoded with
  | nil => rfl
  | cons first _ ih =>
    have same := Bool.eq_iff_iff.mpr (Option.isNone_iff_eq_none.trans first.2)
    rw [List.any_cons, List.any_cons, ih, same]

/-- Every column that rows were taken into, but those of arrays, can be sent: each value as the type of the column, and
all of them as an array of it, which is read back as the values sent one by one, in the order of the rows. Only a text
or bytes can be too long for this: the wire has no room for the length of an element of `2 ^ 31` bytes, and an array
with one is refused. -/
theorem encode_array_of_ofRows {rows : List (List ParameterRecord)}
    (asIs : ∀ row ∈ rows, ∀ record ∈ row, record.BoundAsIs) {batch : ColumnBatch}
    (accepted : ColumnBatch.ofRows rows = .ok batch) (few : rows.length < Nat.pow 2 31) {place : Nat} {column : Column}
    (here : batch.columns[place]? = some column) (element : column.type ≠ .array) :
    ∃ type sent, PgType.ofName? column.type.name = some (.scalar type) ∧
      PgType.ofName? ('_' :: column.type.name) = some (.array .standard type) ∧
      column.values.map some = rows.map (fun row => row[place]?.map (·.value)) ∧
      List.Forall₂ (fun value wire => encode value (.scalar type) = .ok wire ∧ (wire = none ↔ value.isNull))
        column.values sent ∧
      ∀ tag,
        ((∀ value ∈ column.values, heldBytes value < Nat.pow 2 31) →
          ∃ bytes, encode (.array tag column.values) (.array .standard type) = .ok (some bytes) ∧
            readArray? bytes = some {
              hasNulls := column.values.any SqlValue.isNull
              element := type.oid
              lowerBound := 1
              elements := sent }) ∧
        ((∃ value ∈ column.values, Nat.pow 2 31 ≤ heldBytes value) →
          encode (.array tag column.values) (.array .standard type) = .error .tooLong) := by
  obtain ⟨inOrder, unified⟩ := ColumnBatch.column_of_ofRows asIs accepted here
  obtain ⟨sent, encoded⟩ := exists_sent element (SqlType.unify?_of_unified? unified)
  have oneByOne := encoded.imp fun _ _ both => both.1
  have fewValues : column.values.length < Nat.pow 2 31 := by
    have size := congrArg List.length inOrder
    rw [List.length_map, List.length_map] at size
    omega
  have fewSent : sent.length < Nat.pow 2 31 := by
    have size := encoded.length_eq
    omega
  refine ⟨column.type.server, sent, SqlType.pgType_name element, SqlType.pgType_arrayName element, inOrder, encoded,
    fun tag => ⟨fun short => ?_, fun long => ?_⟩⟩
  · have fits := (forall_fits_iff encoded).mpr short
    refine ⟨_, encode_array_of_fits tag .standard fewValues oneByOne fits, ?_⟩
    rw [readArray?_arrayBytes .standard column.type.oid_server_lt fewSent fits, any_isNone_sent encoded]
    rfl
  · apply encode_array_of_not_fits tag .standard fewValues oneByOne
    by_contra fits
    obtain ⟨value, member, room⟩ := long
    have short := (forall_fits_iff encoded).mp (fun wire sends => by_contra fun misfit => fits ⟨wire, sends, misfit⟩)
    exact absurd (short value member) (Nat.not_lt.mpr room)

/-- A null without a type and integers of two widths, all sent as 64 bits. -/
theorem encode_array_of_ofRows_integers :
    ∃ batch column bytes,
      ColumnBatch.ofRows [[.ofValue 1 (.null .unknown)], [.ofValue 1 (.long 5)], [.ofValue 1 (.short 3)]] = .ok batch ∧
      batch.columns[0]? = some column ∧
      encode (.array .int8 column.values) (.array .standard .int8) = .ok (some bytes) ∧
      readArray? bytes = some {
        hasNulls := true
        element := 20
        lowerBound := 1
        elements := [none, some [0, 0, 0, 0, 0, 0, 0, 5], some [0, 0, 0, 0, 0, 0, 0, 3]] } := by
  obtain ⟨batch, accepted, here⟩ : ∃ batch,
      ColumnBatch.ofRows [[.ofValue 1 (.null .unknown)], [.ofValue 1 (.long 5)], [.ofValue 1 (.short 3)]] = .ok batch ∧
        batch.columns[0]? = some { type := .int8, values := [.null .unknown, .long 5, .short 3] } := ⟨_, rfl, rfl⟩
  obtain ⟨type, sent, named, -, -, encoded, arrays⟩ :=
    encode_array_of_ofRows (by simp [ParameterRecord.boundAsIs_ofValue]) accepted (by decide) here (by decide)
  have eight : type = .int8 := by
    rw [show PgType.ofName? SqlType.int8.name = some (.scalar .int8) from SqlType.pgType_name (by decide)] at named
    exact (PgType.scalar.inj (Option.some.inj named)).symm
  subst eight
  have sentAs : sent = [none, some [0, 0, 0, 0, 0, 0, 0, 5], some [0, 0, 0, 0, 0, 0, 0, 3]] := by
    obtain _ | ⟨⟨first, -⟩, _ | ⟨⟨second, -⟩, _ | ⟨⟨third, -⟩, _ | _⟩⟩⟩ := encoded
    rw [← Except.ok.inj first, ← Except.ok.inj second, ← Except.ok.inj third]
    decide +kernel
  subst sentAs
  obtain ⟨bytes, encodedAll, read⟩ := (arrays .int8).1 (by simp [heldBytes])
  exact ⟨batch, _, bytes, accepted, here, encodedAll, read⟩

/-- A row of a string of `2 ^ 31` characters is accepted and the string can be sent by itself, but its column has no
array. -/
theorem encode_array_refuses_long_string :
    let long : Text := List.replicate (Nat.pow 2 31) 'a'
    ∃ batch column, ColumnBatch.ofRows [[.ofValue 1 (.string long)]] = .ok batch ∧ batch.columns[0]? = some column ∧
      column.type = .varchar ∧
      encode (.string long) (.scalar .varchar) = .ok (some (Utf8.encode long)) ∧
      encode (.array .varchar column.values) (.array .standard .varchar) = .error .tooLong := by
  intro long
  obtain ⟨batch, accepted, here⟩ : ∃ batch, ColumnBatch.ofRows [[.ofValue 1 (.string long)]] = .ok batch ∧
      batch.columns[0]? = some { type := .varchar, values := [.string long] } := ⟨_, rfl, rfl⟩
  have alone : encode (.string long) (.scalar .varchar) = .ok (some (Utf8.encode long)) := rfl
  have misfit : ¬ Fits (some (Utf8.encode long)) := by
    intro fits
    have short := Nat.lt_of_le_of_lt (Utf8.length_le_length_encode long) (fits _ rfl)
    rw [List.length_replicate] at short
    exact Nat.lt_irrefl _ short
  refine ⟨batch, _, accepted, here, rfl, alone, ?_⟩
  exact encode_array_of_not_fits .varchar .standard (show 1 < Nat.pow 2 31 by decide) (.cons alone .nil)
    ⟨_, List.mem_singleton_self _, misfit⟩

end Wire

end BulkSql
