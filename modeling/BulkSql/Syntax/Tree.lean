import BulkSql.Text.Basic

/-! # Statement trees

What a statement says, free of layout. Names, literals and types keep the spelling of the statement, quotes
included; keywords and operators do not.
-/

namespace BulkSql

inductive LiteralKind where
  | boolean | null | number | string
deriving DecidableEq, Repr

/-- A constant as written. -/
structure Literal where
  kind : LiteralKind
  text : Text
deriving DecidableEq, Repr

/-- A column, with the table it is looked up in where the statement says so. -/
structure ColumnRef where
  qualifier? : Option Text
  name : Text
deriving DecidableEq, Repr

/-- A table, with its schema where the statement says so. -/
structure TableRef where
  schema? : Option Text
  table : Text
deriving DecidableEq, Repr

inductive Sign where
  | plus | minus
deriving DecidableEq, Repr

inductive ArithmeticOp where
  | add | subtract | multiply | divide | modulo
deriving DecidableEq, Repr

inductive ComparisonOp where
  | equal | notEqual | less | lessOrEqual | greater | greaterOrEqual
deriving DecidableEq, Repr

inductive LogicalOp where
  | and | or | xor
deriving DecidableEq, Repr

inductive Expr where
  | placeholder
  | literal (literal : Literal)
  | column (column : ColumnRef)
  | call (name : Text) (arguments : List Expr)
  | nested (inner : Expr)
  | cast (inner : Expr) (type : Text)
  | signed (sign : Sign) (inner : Expr)
  | arithmetic (op : ArithmeticOp) (left right : Expr)
  | comparison (op : ComparisonOp) (left right : Expr)
  | logical (op : LogicalOp) (left right : Expr)
  | isNull (inner : Expr) (negated : Bool)
deriving Repr

/-- The atoms of a one-row VALUES list, with the list as written from its opening parenthesis on. -/
structure ValueList where
  atoms : List Expr
  span : Text
deriving Repr

/-- The conflicts that an ON CONFLICT clause lets pass. -/
inductive ConflictTarget where
  | columns (names : List Text)
  | constraint (name : Text)
deriving DecidableEq, Repr

/-- Where a one-row statement writes and what. -/
structure RowTarget where
  table : TableRef
  columns : List Text
  values : ValueList
deriving Repr

structure SetClause where
  column : Text
  value : Expr
deriving Repr

structure Update where
  table : TableRef
  assignments : List SetClause
  condition : Expr
deriving Repr

inductive StatementKind where
  | insert | upsert | update
deriving DecidableEq, Repr

inductive Statement where
  | insert (row : RowTarget) (onConflict : Option ConflictTarget)
  | upsert (row : RowTarget)
  | update (update : Update)
deriving Repr

def Statement.kind : Statement → StatementKind
  | insert .. => .insert
  | upsert .. => .upsert
  | update .. => .update

namespace StatementKind

/-- The kind in upper case, which is also the verb of its statements. -/
def name : StatementKind → Text
  | insert => "INSERT"
  | upsert => "UPSERT"
  | update => "UPDATE"

end StatementKind

/-! ## Spellings -/

/-- A name behind its qualifier and a dot, or alone. -/
def dotted (qualifier? : Option Text) (name : Text) : Text :=
  match qualifier? with
  | some qualifier => qualifier ++ '.' :: name
  | none => name

def ColumnRef.text (column : ColumnRef) : Text := dotted column.qualifier? column.name

def TableRef.text (table : TableRef) : Text := dotted table.schema? table.table

def Sign.text : Sign → Text
  | plus => "+"
  | minus => "-"

def ArithmeticOp.text : ArithmeticOp → Text
  | add => "+"
  | subtract => "-"
  | multiply => "*"
  | divide => "/"
  | modulo => "%"

def ComparisonOp.text : ComparisonOp → Text
  | equal => "="
  | notEqual => "!="
  | less => "<"
  | lessOrEqual => "<="
  | greater => ">"
  | greaterOrEqual => ">="

def LogicalOp.text : LogicalOp → Text
  | and => "AND"
  | or => "OR"
  | xor => "XOR"

end BulkSql
