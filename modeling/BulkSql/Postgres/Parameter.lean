import BulkSql.Postgres.Failure
import BulkSql.Postgres.Numeric
import BulkSql.Postgres.Type
import BulkSql.Value.SqlValue

/-! # Parameters on the wire

A value is sent in the binary form of the type that its parameter has at the server. Numbers adapt to the type of the
parameter as far as they fit; all other values need a type of their kind. A null is sent as no bytes at all.
-/

namespace BulkSql

/-- What a parameter is sent as: its bytes, or null. -/
abbrev WireValue := Option Bytes

namespace Wire

/-! ## Numbers -/

/-- A number in a narrower word. -/
def narrow (width : Nat) (n : Int64) : Except EncodeError Bytes :=
  if n.toInt < -(Nat.pow 256 width / 2 : Nat) then .error .tooSmall
  else if (Nat.pow 256 width / 2 : Nat) ≤ n.toInt then .error .tooLarge
  else .ok (Word.encodeInt width n.toInt)

def float (x : Float) : Bytes := Word.encode 8 x.toBits.toNat

def float32 (x : Float32) : Bytes := Word.encode 4 x.toBits.toNat

def integer (n : Int64) (type : PgScalar) : Except EncodeError Bytes :=
  match type with
  | .int2 => narrow 2 n
  | .int4 => narrow 4 n
  | .int8 => .ok (Word.encodeInt 8 n.toInt)
  | .numeric => .ok (Numeric.encode (.ofInt64 n))
  | .float8 => .ok (float n.toFloat)
  | _ => .error (.incompatible "i64" type.label)

/-! ## Dates and times -/

/-- The server counts from the first of January 2000. -/
def epochDay : Int := 10957

def day (date : Date) : Bytes := Word.encodeInt 4 (date.days - epochDay)

def moment (t : Timestamp) : Bytes := Word.encodeInt 8 (t.microseconds - epochDay * microsecondsPerDay)

/-! ## Values -/

/-- What sort of value it is, in messages. -/
def sort : SqlValue → Text
  | .null _ => "null"
  | .bool _ => "bool"
  | .byte _ | .short _ | .int _ | .long _ => "i64"
  | .float _ => "f32"
  | .double _ => "f64"
  | .decimal _ => "rust_decimal::decimal::Decimal"
  | .string _ | .clob _ => "alloc::string::String"
  | .bytes _ => "alloc::vec::Vec<u8>"
  | .blob _ => "&[u8]"
  | .date _ => "chrono::naive::date::NaiveDate"
  | .time _ => "chrono::naive::time::NaiveTime"
  | .timestamp _ => "chrono::naive::datetime::NaiveDateTime"
  | .timestamptz _ => "chrono::datetime::DateTime<chrono::offset::utc::Utc>"
  | .uuid _ => "uuid::Uuid"
  | .array .. => "sqlbatcher::value::ArrayValue"

/-- Types that hold text. -/
def holdsText : PgScalar → Bool
  | .varchar | .text | .bpchar | .name | .untyped => true
  | _ => false

/-- A value as a parameter of a scalar type. -/
def encodeScalar (value : SqlValue) (type : PgScalar) : Except EncodeError WireValue :=
  match value, type with
  | .null _, _ => .ok none
  | .bool b, .bool => .ok (some [if b then 1 else 0])
  | .byte n, _ => (integer n.toInt64 type).map some
  | .short n, _ => (integer n.toInt64 type).map some
  | .int n, _ => (integer n.toInt64 type).map some
  | .long n, _ => (integer n type).map some
  | .float x, .float4 => .ok (some (float32 x))
  | .float x, .float8 => .ok (some (float x.toFloat))
  | .double x, .float4 => .ok (some (float32 x.toFloat32))
  | .double x, .float8 => .ok (some (float x))
  | .decimal d, .numeric => .ok (some (Numeric.encode d))
  | .bytes b, .bytea | .blob b, .bytea => .ok (some b)
  | .date d, .date => .ok (some (day d))
  | .time t, .time => .ok (some (Word.encode 8 (t.nanoseconds / 1000)))
  | .timestamp t, .timestamp | .timestamptz t, .timestamptz => .ok (some (moment t))
  | .uuid u, .uuid => .ok (some (Word.encode 16 u.toNat))
  | .string t, type | .clob t, type =>
    if holdsText type then .ok (some (Utf8.encode t)) else .error (.incompatible (sort value) type.label)
  | value, type => .error (.incompatible (sort value) type.label)

/-- A value as an element of an array. The length in front of an element is a word with a sign, so there is no room for
longer ones. -/
def encodeElement (value : SqlValue) (type : PgScalar) : Except EncodeError WireValue := do
  match ← encodeScalar value type with
  | some bytes => if Nat.pow 2 31 ≤ bytes.length then .error .tooLong else pure (some bytes)
  | none => pure none

/-- A value with its length in front. A null has no length. -/
def frame : WireValue → Bytes
  | none => Word.encodeInt 4 (-1)
  | some bytes => Word.encode 4 bytes.length ++ bytes

/-- An array of one dimension: whether it has nulls, the type of its elements, their number, where they are counted
from, and the elements. -/
def arrayBytes (form : ArrayForm) (element : PgScalar) (elements : List WireValue) : Bytes :=
  Word.encode 4 1 ++ Word.encode 4 (if elements.any (·.isNone) then 1 else 0) ++ Word.encode 4 element.oid ++
    Word.encode 4 elements.length ++ Word.encode 4 form.lowerBound ++ elements.flatMap frame

/-- A value as a parameter. -/
def encode (value : SqlValue) (type : PgType) : Except EncodeError WireValue :=
  match value, type with
  | value, .scalar type => encodeScalar value type
  | .null _, .array .. => .ok none
  | .array _ elements, .array form element =>
    if Nat.pow 2 31 ≤ elements.length then .error .tooLong
    else do
      let sent ← elements.mapM fun value => encodeElement value element
      pure (some (arrayBytes form element sent))
  | value, .array .. => .error (.incompatible (sort value) type.label)

/-- The parameters of a statement, each of the type that the server gives it. The first that cannot be sent is refused;
positions are counted from the given one. -/
def encodeAll : (position : Nat) → List SqlValue → List PgType → Except PostgresFailure (List WireValue)
  | position, value :: values, type :: types =>
    match encode value type with
    | .error error => .error (.parameter position error)
    | .ok sent => (encodeAll (position + 1) values types).map (sent :: ·)
  | _, _, _ => .ok []

end Wire

end BulkSql
