import BulkSql.Text.Utf8
import BulkSql.Value.Decimal
import BulkSql.Value.Moment
import BulkSql.Value.SqlType
import BulkSql.Value.Uuid

/-! # SQL values

The values that are bound to parameters, each with the type it is bound as, and the values of a program that have
such a counterpart.
-/

namespace BulkSql

inductive SqlValue where
  | null (type : SqlType)
  | bool (value : Bool)
  | byte (value : Int8)
  | short (value : Int16)
  | int (value : Int32)
  | long (value : Int64)
  | float (value : Float32)
  | double (value : Float)
  | decimal (value : Decimal)
  | string (value : Text)
  | bytes (value : Bytes)
  | date (value : Date)
  | time (value : TimeOfDay)
  | timestamp (value : Timestamp)
  | timestamptz (value : Timestamp)
  | uuid (value : Uuid)
  /-- a large object of bytes -/
  | blob (value : Bytes)
  /-- a large object of characters -/
  | clob (value : Text)
  | array (element : SqlType) (elements : List SqlValue)

/-- An array with the type that its elements are bound as. -/
structure ArrayValue where
  element : SqlType
  elements : List SqlValue

namespace SqlValue

instance : Inhabited SqlValue := ⟨null .unknown⟩

def ofArray (array : ArrayValue) : SqlValue := .array array.element array.elements

def sqlType : SqlValue → SqlType
  | null type => type
  | bool _ => .bool
  | byte _ | short _ => .int2
  | int _ => .int4
  | long _ => .int8
  | float _ => .float4
  | double _ => .float8
  | decimal _ => .numeric
  | string _ => .varchar
  | bytes _ | blob _ => .bytea
  | date _ => .date
  | time _ => .time
  | timestamp _ => .timestamp
  | timestamptz _ => .timestamptz
  | uuid _ => .uuid
  | clob _ => .text
  | array .. => .array

def isNull : SqlValue → Bool
  | null _ => true
  | _ => false

end SqlValue

/-- A value of a program, whose type decides what it is bound as. -/
inductive HostValue where
  | sql (value : SqlValue)
  | int8 (value : Int8)
  | int16 (value : Int16)
  | int32 (value : Int32)
  | int64 (value : Int64)
  | uint8 (value : UInt8)
  | uint16 (value : UInt16)
  | uint32 (value : UInt32)
  | uint64 (value : UInt64)
  | float32 (value : Float32)
  | float64 (value : Float)
  | bool (value : Bool)
  | char (value : Char)
  | text (value : Text)
  | decimal (value : Decimal)
  | uuid (value : Uuid)
  | bytes (value : Bytes)
  | blob (value : Bytes)
  | clob (value : Text)
  | date (value : Date)
  | time (value : TimeOfDay)
  | timestamp (value : Timestamp)
  | timestamptz (value : Timestamp)
  | array (value : ArrayValue)
  /-- a value of a type that has no SQL counterpart -/
  | foreign

namespace HostValue

/-- The SQL value of a host value, if its type has a counterpart. An integer without a sign takes the next wider type
with one, and the widest becomes a decimal. -/
def classify? : HostValue → Option SqlValue
  | sql value => some value
  | int8 value => some (.byte value)
  | int16 value => some (.short value)
  | int32 value => some (.int value)
  | int64 value => some (.long value)
  | uint8 value => some (.short (Int16.ofNat value.toNat))
  | uint16 value => some (.int (Int32.ofNat value.toNat))
  | uint32 value => some (.long (Int64.ofNat value.toNat))
  | uint64 value => some (.decimal (.ofUInt64 value))
  | float32 value => some (.float value)
  | float64 value => some (.double value)
  | bool value => some (.bool value)
  | char value => some (.string [value])
  | text value => some (.string value)
  | decimal value => some (.decimal value)
  | uuid value => some (.uuid value)
  | bytes value => some (.bytes value)
  | blob value => some (.blob value)
  | clob value => some (.clob value)
  | date value => some (.date value)
  | time value => some (.time value)
  | timestamp value => some (.timestamp value)
  | timestamptz value => some (.timestamptz value)
  | array value => some (.ofArray value)
  | foreign => none

end HostValue

end BulkSql
