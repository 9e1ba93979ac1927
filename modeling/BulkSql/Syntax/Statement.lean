import BulkSql.Syntax.Expression
import BulkSql.Syntax.ParseError

/-! # Grammar of statements

A statement may have layout before it and one semicolon behind it; nothing else may follow. A VALUES list has one row
and as many values as there are columns.
-/

namespace BulkSql

namespace Statement

open Reader

/-- One or more names in parentheses. -/
def readNames : Reader (List Text) := listOf identifier

def readTable : Reader TableRef := do
  let (schema?, table) ← Expr.readDotted
  pure { schema?, table }

/-- The list behind VALUES, with the text that starts there. Blanks at the end of its span are cut off. -/
def readValues : Reader (Text × ValueList) := do
  keyword .VALUES
  located do
    let (span, atoms) ← consumed (listOf Expr.readAtom)
    pure { atoms, span := Text.trimEnd span }

def readConflictTarget : Reader ConflictTarget :=
  firstOf [
    do
      let names ← readNames
      pure (.columns names),
    do
      keywords [.ON, .CONSTRAINT]
      let name ← identifier
      pure (.constraint name)]

/-- The only action on a conflict is to do nothing. -/
def readOnConflict : Reader ConflictTarget := do
  keywords [.ON, .CONFLICT]
  let target ← readConflictTarget
  keywords [.DO, .NOTHING]
  pure target

/-- Table, columns and values behind the verb, with the text that starts at the values. -/
def readRow (verb : Keyword) : Reader (Text × RowTarget) := do
  keywords [verb, .INTO]
  let table ← readTable
  let columns ← readNames
  let (valuesAt, values) ← readValues
  pure (valuesAt, { table, columns, values })

def readSetClause : Reader SetClause := do
  let column ← identifier
  let _ ← symbol ['=']
  let value ← Expr.read
  pure { column, value }

def readUpdate : Reader Update := do
  keyword .UPDATE
  let table ← readTable
  keyword .SET
  let assignments ← commaSeparated readSetClause
  keyword .WHERE
  let condition ← Expr.read
  pure { table, assignments, condition }

/-- A statement of a kind, with the text that starts at its values if it has some. -/
def read : StatementKind → Reader (Text × Statement)
  | .insert => do
    let (valuesAt, row) ← readRow .INSERT
    let conflict? ← optional readOnConflict
    pure (valuesAt, .insert row conflict?)
  | .upsert => do
    let (valuesAt, row) ← readRow .UPSERT
    pure (valuesAt, .upsert row)
  | .update => do
    let statement ← readUpdate
    pure ([], .update statement)

/-- A statement that is the whole text. -/
def whole (kind : StatementKind) : Reader (Text × Statement) := do
  layout
  let statement ← named kind.name (read kind)
  let _ ← optional (symbol [';'])
  endOfInput
  pure statement

/-- The row of a statement that has one. -/
def row? : Statement → Option RowTarget
  | .insert row _ | .upsert row => some row
  | .update _ => none

/-- A row has one value for each column. -/
def checkArity (text valuesAt : Text) (statement : Statement) : Except ParseError Statement :=
  match statement.row? with
  | none => .ok statement
  | some row =>
    if row.columns.length = row.values.atoms.length then .ok statement
    else .error (.arity text (Text.offsetOf text valuesAt) row.columns.length row.values.atoms.length)

/-- Read a text as one statement of a kind. -/
def parse (kind : StatementKind) (text : Text) : Except ParseError Statement :=
  match whole kind text with
  | .done (valuesAt, statement) _ => checkArity text valuesAt statement
  | .fail why | .halt why => .error (.ofFailure text why)

end Statement

end BulkSql
