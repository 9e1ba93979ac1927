import BulkSql.Syntax.Token
import BulkSql.Text.Blank

/-! # Parse errors

A statement outside the grammar is refused with the furthest place that was reached, the token that stands there and
what could have stood there instead.
-/

namespace BulkSql

/-- Why a text is refused. -/
inductive ParseCause where
  /-- the grammar does not go on with what stands there -/
  | unexpected
  /-- no token starts with the character there -/
  | unrecognized
  /-- a VALUES list has another number of values than there are columns -/
  | arity (columns values : Nat)
deriving DecidableEq, Repr

structure ParseError where
  cause : ParseCause
  /-- the offending token, none at the end of the text -/
  token? : Option Text
  /-- byte offset -/
  position : Nat
  line : Nat
  column : Nat
  expected : List Text
deriving DecidableEq, Repr

namespace ParseError

/-- The token at a place, or else the first character there that is no blank. -/
def offending? (whole : Text) (position : Nat) : Option Text :=
  match Token.at? whole position with
  | some token => some token.text
  | none => (Text.fromOffset? whole position).bind fun rest => (Text.trimStart rest).head?.map fun c => [c]

/-- An error at a byte offset, with the line and column of it. -/
def build (whole : Text) (position : Nat) (cause : ParseCause) (token? : Option Text) (expected : List Text) :
    ParseError :=
  let before := Text.uptoOffset whole position
  { cause, token?, position, line := Text.lineAfter before, column := Text.columnAfter before, expected }

def unexpected (whole : Text) (position : Nat) (expected : List Text) : ParseError :=
  build whole position .unexpected (offending? whole position) expected

def arity (whole : Text) (position columns values : Nat) : ParseError :=
  build whole position (.arity columns values) (offending? whole position) []

/-- The text from an offset on starts no token. -/
def unrecognized (whole rest : Text) : ParseError :=
  build whole (Text.offsetOf whole rest) .unrecognized (rest.head?.map fun c => [c]) []

/-- The furthest failure of a reader. -/
def ofFailure (whole : Text) (failure : Failure) : ParseError :=
  let furthest := failure.furthest whole
  unexpected whole furthest.position furthest.expected

def message (error : ParseError) : Text :=
  match error.cause, error.token? with
  | .unexpected, some token => "unexpected '" ++ token ++ "'"
  | .unrecognized, some token => "unrecognized character '" ++ token ++ "'"
  | .unexpected, none | .unrecognized, none => "unexpected end of input"
  | .arity columns values, _ =>
    Text.ofNat columns ++ " columns but " ++ Text.ofNat values ++ " values in VALUES list"

/-- The message with its place and what was expected there. -/
def describe (error : ParseError) : Text :=
  let place := error.message ++ " at line " ++ Text.ofNat error.line ++ ", column " ++ Text.ofNat error.column
  if error.expected.isEmpty then place else place ++ ", expected one of: " ++ Text.commaList error.expected

end ParseError

end BulkSql
