import BulkSql.Text.Basic

/-! # Types of the server

The types that parameters of a statement have at the server, by name and number. Arrays have elements of one scalar
type; two types of vectors are arrays that are counted from zero.
-/

namespace BulkSql

inductive PgScalar where
  | bool | bytea | name | int8 | int2 | int4 | text | float4 | float8
  /-- the type of a literal that has none yet -/
  | untyped
  | bpchar | varchar | date | time | timestamp | timestamptz | numeric | uuid
  /-- a type that no value is sent as -/
  | other (label : Text) (number : Nat)
deriving DecidableEq, Repr

namespace PgScalar

def label : PgScalar → Text
  | bool => "bool"
  | bytea => "bytea"
  | name => "name"
  | int8 => "int8"
  | int2 => "int2"
  | int4 => "int4"
  | text => "text"
  | float4 => "float4"
  | float8 => "float8"
  | untyped => "unknown"
  | bpchar => "bpchar"
  | varchar => "varchar"
  | date => "date"
  | time => "time"
  | timestamp => "timestamp"
  | timestamptz => "timestamptz"
  | numeric => "numeric"
  | uuid => "uuid"
  | other label _ => label

/-- The number of the type. -/
def oid : PgScalar → Nat
  | bool => 16
  | bytea => 17
  | name => 19
  | int8 => 20
  | int2 => 21
  | int4 => 23
  | text => 25
  | float4 => 700
  | float8 => 701
  | untyped => 705
  | bpchar => 1042
  | varchar => 1043
  | date => 1082
  | time => 1083
  | timestamp => 1114
  | timestamptz => 1184
  | numeric => 1700
  | uuid => 2950
  | other _ number => number

/-- The number of object numbers. -/
def objectId : PgScalar := other "oid" 26

/-- The types that values are sent as. -/
def valued : List PgScalar :=
  [bool, bytea, name, int8, int2, int4, text, float4, float8, untyped, bpchar, varchar, date, time, timestamp,
    timestamptz, numeric, uuid]

/-- Types that no value is sent as. -/
def unvalued : List PgScalar :=
  [other "char" 18, other "regproc" 24, objectId, other "tid" 27, other "xid" 28, other "cid" 29, other "json" 114,
    other "xml" 142, other "point" 600, other "lseg" 601, other "path" 602, other "box" 603, other "polygon" 604,
    other "line" 628, other "cidr" 650, other "circle" 718, other "macaddr8" 774, other "money" 790,
    other "macaddr" 829, other "inet" 869, other "aclitem" 1033, other "interval" 1186, other "timetz" 1266,
    other "bit" 1560, other "varbit" 1562, other "refcursor" 1790, other "regprocedure" 2202, other "regoper" 2203,
    other "regoperator" 2204, other "regclass" 2205, other "regtype" 2206, other "record" 2249,
    other "cstring" 2275, other "any" 2276, other "void" 2278, other "txid_snapshot" 2970, other "pg_lsn" 3220,
    other "tsvector" 3614, other "tsquery" 3615, other "gtsvector" 3642, other "regconfig" 3734,
    other "regdictionary" 3769, other "jsonb" 3802, other "int4range" 3904, other "numrange" 3906,
    other "tsrange" 3908, other "tstzrange" 3910, other "daterange" 3912, other "int8range" 3926,
    other "jsonpath" 4072, other "regnamespace" 4089, other "regrole" 4096, other "regcollation" 4191,
    other "xid8" 5069]

def ofName? (name : Text) : Option PgScalar := (valued ++ unvalued).find? (·.label == name)

end PgScalar

inductive ArrayForm where
  /-- counted from one -/
  | standard
  /-- counted from zero -/
  | vector
deriving DecidableEq, Repr

def ArrayForm.lowerBound : ArrayForm → Nat
  | standard => 1
  | vector => 0

inductive PgType where
  | scalar (type : PgScalar)
  | array (form : ArrayForm) (element : PgScalar)
deriving DecidableEq, Repr

namespace PgType

def label : PgType → Text
  | scalar type => type.label
  | array .standard element => '_' :: element.label
  | array .vector element => element.label ++ "vector"

def int2vector : PgType := array .vector .int2

def oidvector : PgType := array .vector .objectId

def ofName? (name : Text) : Option PgType :=
  match name with
  | '_' :: element => (PgScalar.ofName? element).map (array .standard)
  | _ => [int2vector, oidvector].find? (·.label == name) <|> (PgScalar.ofName? name).map scalar

end PgType

end BulkSql
