import BulkSql.Syntax.Lexeme
import BulkSql.Syntax.Tree

/-! # Grammar of expressions

From the loosest binding to the closest: OR, XOR, AND, IS NULL tests, one comparison, sums, products, signs, casts.
Atoms of a VALUES list are narrower: no operators and no columns, so every atom is a parameter or a value that is the
same for each row of a batch. Both grammars call themselves inside parentheses and argument lists only, which stand
behind at least one character.
-/

namespace BulkSql

namespace Reader

variable {α : Type}

/-- Something in parentheses. -/
def parenthesized (inner : Reader α) : Reader α := do
  let _ ← symbol ['(']
  let value ← inner
  let _ ← symbol [')']
  pure value

/-- One or more items with commas between. -/
def commaSeparated (item : Reader α) : Reader (List α) := separated (symbol [',']) item

/-- One or more items with commas between, in parentheses. -/
def listOf (item : Reader α) : Reader (List α) := parenthesized (commaSeparated item)

end Reader

namespace Expr

open Reader

/-- A constant of one kind. -/
def literalOf (kind : LiteralKind) (text : Reader Text) : Reader Expr := do
  let written ← text
  pure (.literal { kind, text := written })

def readLiteral : Reader Expr :=
  firstOf [
    literalOf .boolean (keywordText .TRUE),
    literalOf .boolean (keywordText .FALSE),
    literalOf .null (keywordText .NULL),
    literalOf .number number,
    literalOf .string string]

def readPlaceholder : Reader Expr := do
  let _ ← Reader.placeholder
  pure .placeholder

/-- A name and its arguments, of which there may be none. -/
def readCall (argument : Reader Expr) : Reader Expr := do
  let name ← identifier
  let arguments ← parenthesized (optional (commaSeparated argument))
  pure (.call name (arguments.getD []))

def readNested (inner : Reader Expr) : Reader Expr := do
  let value ← parenthesized inner
  pure (.nested value)

/-- A name, or a name behind a qualifier and a dot. -/
def readDotted : Reader (Option Text × Text) := do
  let first ← identifier
  let second? ← optional do
    let _ ← symbol ['.']
    identifier
  match second? with
  | some second => pure (some first, second)
  | none => pure (none, first)

def readColumn : Reader Expr := do
  let (qualifier?, name) ← readDotted
  pure (.column { qualifier?, name })

/-- The type behind a cast. -/
def castMark : Reader Text := do
  let _ ← symbol [':', ':']
  typeName

/-- An operand and the types it is cast to. -/
def readCasts (operand : Reader Expr) : Reader Expr := marksAfter operand castMark .cast

/-! ## Atoms of a VALUES list -/

/-- One level of atoms, with a reader for those inside. -/
def atomLevel (inner : Reader Expr) : Reader Expr :=
  readCasts (firstOf [readPlaceholder, readLiteral, readCall inner, readNested inner])

def readAtom : Reader Expr := recursive atomLevel

/-! ## Expressions of an UPDATE -/

/-- A symbol that stands for an operator. -/
def operator {α : Type} (written : Text) (op : α) : Reader α := do
  let _ ← symbol written
  pure op

/-- A keyword that stands for an operator. -/
def logicalOperator (word : Keyword) (op : LogicalOp) : Reader LogicalOp := do
  keyword word
  pure op

def signOperator : Reader Sign := firstOf [operator ['+'] .plus, operator ['-'] .minus]

def productOperator : Reader ArithmeticOp :=
  firstOf [operator ['*'] .multiply, operator ['/'] .divide, operator ['%'] .modulo]

def sumOperator : Reader ArithmeticOp := firstOf [operator ['+'] .add, operator ['-'] .subtract]

/-- Both spellings of inequality are one operator. -/
def comparisonOperator : Reader ComparisonOp :=
  firstOf [
    operator ['>', '='] .greaterOrEqual,
    operator ['<', '='] .lessOrEqual,
    operator ['!', '='] .notEqual,
    operator ['<', '>'] .notEqual,
    operator ['='] .equal,
    operator ['<'] .less,
    operator ['>'] .greater]

/-- The test behind IS: whether it is negated. -/
def nullTest : Reader Bool := do
  keyword .IS
  let negation? ← optional (keyword .NOT)
  keyword .NULL
  pure negation?.isSome

def primaryLevel (inner : Reader Expr) : Reader Expr :=
  firstOf [readPlaceholder, readLiteral, readCall inner, readColumn, readNested inner]

def signLevel (inner : Reader Expr) : Reader Expr := signsBefore signOperator (readCasts (primaryLevel inner)) .signed

def productLevel (inner : Reader Expr) : Reader Expr := chainLeft productOperator (signLevel inner) .arithmetic

def sumLevel (inner : Reader Expr) : Reader Expr := chainLeft sumOperator (productLevel inner) .arithmetic

/-- Comparisons do not chain: behind the right operand no further comparison is read. -/
def comparisonLevel (inner : Reader Expr) : Reader Expr := do
  let left ← sumLevel inner
  let right? ← optional (furtherOperand comparisonOperator (sumLevel inner))
  match right? with
  | some (op, right) => pure (.comparison op left right)
  | none => pure left

def nullTestLevel (inner : Reader Expr) : Reader Expr := marksAfter (comparisonLevel inner) nullTest .isNull

def andLevel (inner : Reader Expr) : Reader Expr :=
  chainLeft (logicalOperator .AND .and) (nullTestLevel inner) .logical

def xorLevel (inner : Reader Expr) : Reader Expr := chainLeft (logicalOperator .XOR .xor) (andLevel inner) .logical

/-- One level of expressions, with a reader for those inside parentheses and argument lists. -/
def orLevel (inner : Reader Expr) : Reader Expr := chainLeft (logicalOperator .OR .or) (xorLevel inner) .logical

def read : Reader Expr := recursive orLevel

end Expr

end BulkSql
