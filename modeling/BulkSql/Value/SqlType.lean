import BulkSql.Text.Basic

/-! # SQL types

The type a value is bound with, and the type that an array of several values has. Types form families; inside the
families of integers and of floats the wider type holds both.
-/

namespace BulkSql

inductive SqlType where
  /-- the type of a null that was bound without one -/
  | unknown
  | bool | int2 | int4 | int8 | float4 | float8 | numeric | varchar | text | bytea | date | time | timestamp
  | timestamptz | uuid | array
deriving DecidableEq, Repr

namespace SqlType

def all : List SqlType :=
  [unknown, bool, int2, int4, int8, float4, float8, numeric, varchar, text, bytea, date, time, timestamp, timestamptz,
    uuid, array]

theorem mem_all (type : SqlType) : type ∈ all := by cases type <;> decide

/-- The word for the type in messages. -/
def label : SqlType → Text
  | unknown => "unknown"
  | bool => "bool"
  | int2 => "int2"
  | int4 => "int4"
  | int8 => "int8"
  | float4 => "float4"
  | float8 => "float8"
  | numeric => "numeric"
  | varchar => "varchar"
  | text => "text"
  | bytea => "bytea"
  | date => "date"
  | time => "time"
  | timestamp => "timestamp"
  | timestamptz => "timestamptz"
  | uuid => "uuid"
  | array => "array"

/-- The name of the type as an element of an array. Where only nulls were seen any element type will do. -/
def name : SqlType → Text
  | unknown => "text"
  | type => type.label

/-- The type that holds values of both types, if they belong to one family. A varchar and a text give the first of
the two. -/
def unify? : SqlType → SqlType → Option SqlType
  | unknown, type => some type
  | type, unknown => some type
  | int2, int2 => some int2
  | int2, int4 | int4, int2 | int4, int4 => some int4
  | int2, int8 | int8, int2 | int4, int8 | int8, int4 | int8, int8 => some int8
  | float4, float4 => some float4
  | float4, float8 | float8, float4 | float8, float8 => some float8
  | varchar, varchar | varchar, text => some varchar
  | text, text | text, varchar => some text
  | type, other => if type = other then some type else none

/-- The types by all their names, in lower case. -/
def names : List (Text × SqlType) :=
  [("bool", bool), ("boolean", bool), ("int2", int2), ("smallint", int2), ("tinyint", int2), ("int4", int4),
    ("int", int4), ("integer", int4), ("int8", int8), ("bigint", int8), ("float4", float4), ("real", float4),
    ("float8", float8), ("double", float8), ("double precision", float8), ("numeric", numeric), ("decimal", numeric),
    ("varchar", varchar), ("string", varchar), ("text", text), ("bytea", bytea), ("bytes", bytea), ("date", date),
    ("time", time), ("timestamp", timestamp), ("timestamptz", timestamptz), ("uuid", uuid)]

/-- The type with a name, in any case of ASCII letters. Nothing names the types unknown and array. -/
def ofName? (name : Text) : Option SqlType := names.lookup (Text.lowerCase name)

end SqlType

end BulkSql
