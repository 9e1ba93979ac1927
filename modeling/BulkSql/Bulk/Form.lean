import BulkSql.Bulk.Walk
import BulkSql.Syntax.Statement

/-! # The bulk form of a statement

A one-row INSERT or UPSERT selects its values from one array per parameter; an UPDATE is joined to a derived table
that has one column per parameter. Bare columns of an UPDATE are qualified with its table, so that they are never
read as columns of the derived table.
-/

namespace BulkSql

/-- A statement that takes, for each of its parameters, one array with a value for every row. -/
structure BulkStatement where
  sql : Text
  parameterCount : Nat
deriving DecidableEq, Repr

/-- The names in the bulk form of an UPDATE: of the derived table, and of its columns before their number. -/
structure DerivedTable where
  name : Text := "dt"
  columnStem : Text := "p"
deriving DecidableEq, Repr

/-- The column for the parameter with a number. -/
def DerivedTable.column (derived : DerivedTable) (number : Nat) : Text := derived.columnStem ++ Text.ofNat number

namespace Bulk

/-! ## INSERT and UPSERT -/

/-- Parameters are left open, columns are written as they stand. -/
def rowStyle : LeafStyle where
  placeholder _ := .placeholder none
  column := ColumnRef.text

/-- One selected item. A parameter becomes an array element under the name of its column; anything else is the same
value for every row. -/
def selectItem (column : Text) (value : Fragment) : Except StackError Text :=
  match value.operand? with
  | none => .error (.typeMismatch "value_list" "expression" value [])
  | some operand =>
    match value with
    | .placeholder _ => .ok (operand ++ " AS " ++ column)
    | _ => .ok operand

def selectItems : List Text → List Fragment → Except StackError (List Text)
  | column :: columns, value :: values => do
    let item ← selectItem column value
    let items ← selectItems columns values
    pure (item :: items)
  | _, _ => pure []

def conflictText : ConflictTarget → Text
  | .columns names => "ON CONFLICT (" ++ Text.commaList names ++ ") DO NOTHING"
  | .constraint name => "ON CONFLICT ON CONSTRAINT " ++ name ++ " DO NOTHING"

/-- The fragments of all atoms, taken off the stack. -/
def visitRow (values : ValueList) : WalkStep (List Fragment) := do
  Walk.visitAll rowStyle values.atoms
  let fragments ← Walk.onStack (FragmentStack.popMany values.atoms.length "value_list")
  Walk.onStack (FragmentStack.ensureEmpty "insert")
  pure fragments

def ofRow (verb : Text) (row : RowTarget) (onConflict : Option ConflictTarget) : Except StackError BulkStatement :=
  match visitRow row.values {} with
  | (.error error, _) => .error error
  | (.ok fragments, state) => do
    if fragments.length ≠ row.columns.length then throw (.leftover "insert" fragments)
    let items ← selectItems row.columns fragments
    let conflict : Text := match onConflict with
      | some target => " " ++ conflictText target
      | none => []
    pure {
      sql := verb ++ " INTO " ++ row.table.text ++ " (" ++ Text.commaList row.columns ++ ") SELECT " ++
        Text.commaList items ++ conflict
      parameterCount := state.parameters }

/-! ## UPDATE -/

/-- Parameters are columns of the derived table, bare columns are columns of the updated table. -/
def updateStyle (derived : DerivedTable) (table : TableRef) : LeafStyle where
  placeholder number := .expr (dotted (some derived.name) (derived.column number))
  column column := match column.qualifier? with
    | some _ => column.text
    | none => dotted (some table.text) column.name

def visitAssignment (style : LeafStyle) (clause : SetClause) : WalkStep Text := do
  Walk.push (.name clause.column)
  Walk.visit style clause.value
  let value ← Walk.onStack (FragmentStack.popOperand "set_clause")
  let column ← Walk.onStack (FragmentStack.popName "set_clause")
  pure (column ++ " = " ++ value)

def visitAssignments (style : LeafStyle) : List SetClause → WalkStep (List Text)
  | [] => pure []
  | clause :: clauses => do
    let assignment ← visitAssignment style clause
    let assignments ← visitAssignments style clauses
    pure (assignment :: assignments)

/-- The written assignments and condition. -/
def visitUpdate (style : LeafStyle) (update : Update) : WalkStep (List Text × Text) := do
  let assignments ← visitAssignments style update.assignments
  Walk.visit style update.condition
  let condition ← Walk.onStack (FragmentStack.popOperand "where")
  Walk.onStack (FragmentStack.ensureEmpty "update")
  pure (assignments, condition)

/-- The join with the derived table, which is left out where there is no parameter. -/
def joinText (derived : DerivedTable) (parameters : Nat) : Text :=
  if parameters = 0 then []
  else
    let columns := (List.range parameters).map fun i => "unnest(?) AS " ++ derived.column (i + 1)
    " FROM (SELECT " ++ Text.commaList columns ++ ") AS " ++ derived.name

def ofUpdate (derived : DerivedTable) (update : Update) : Except StackError BulkStatement :=
  match visitUpdate (updateStyle derived update.table) update {} with
  | (.error error, _) => .error error
  | (.ok (assignments, condition), state) =>
    .ok {
      sql := "UPDATE " ++ update.table.text ++ " SET " ++ Text.commaList assignments ++
        joinText derived state.parameters ++ " WHERE " ++ condition
      parameterCount := state.parameters }

/-- The bulk form of a tree. -/
def ofStatement (derived : DerivedTable) : Statement → Except StackError BulkStatement
  | .insert row onConflict => ofRow "INSERT" row onConflict
  | .upsert row => ofRow "UPSERT" row none
  | .update update => ofUpdate derived update

/-- Why there is no bulk form of a text. -/
inductive Refusal where
  /-- the text is no statement of the kind -/
  | unparsed (error : ParseError)
  /-- the fragments do not fit the tree -/
  | broken (error : StackError)
deriving DecidableEq, Repr

/-- The bulk form of a text that is read as a statement of a kind. -/
def ofText (derived : DerivedTable) (kind : StatementKind) (sql : Text) : Except Refusal BulkStatement :=
  match Statement.parse kind sql with
  | .error error => .error (.unparsed error)
  | .ok statement =>
    match ofStatement derived statement with
    | .error error => .error (.broken error)
    | .ok bulk => .ok bulk

/-- A text qualifies for a kind if it has a bulk form. -/
def qualifies (derived : DerivedTable) (kind : StatementKind) (sql : Text) : Bool := (ofText derived kind sql).isOk

end Bulk

/-- The kind that a statement's first token names. Layout before it is skipped. -/
def StatementKind.detect? (sql : Text) : Option StatementKind :=
  match (Token.at? sql 0).bind fun token => Keyword.lookup? token.text with
  | some .INSERT => some .insert
  | some .UPSERT => some .upsert
  | some .UPDATE => some .update
  | _ => none

end BulkSql
