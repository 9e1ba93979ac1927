import BulkSql.Syntax.Lexeme

/-! # Tokens

The units of a statement with their places. A token is the first of string, number, placeholder, word, operator and
punctuation mark that can be read; words are keywords or identifiers.
-/

namespace BulkSql

inductive TokenKind where
  | keyword | identifier | number | string | placeholder | operator | punctuation
deriving DecidableEq, Repr

/-- A token as written, at its byte offset in the statement. -/
structure Token where
  kind : TokenKind
  text : Text
  position : Nat
deriving DecidableEq, Repr

namespace Token

/-- Operators, a longer one before those it starts with. -/
def operators : List Text := ["::", ">=", "<=", "!=", "<>", "+", "-", "*", "/", "%", "=", "<", ">"]

def punctuationMarks : List Text := ["(", ")", ",", ".", ";"]

/-- A lexeme together with the kind of token it is. -/
def ofKind (kind : TokenKind) (lexeme : Reader Text) : Reader (TokenKind × Text) := do
  let text ← lexeme
  pure (kind, text)

/-- A word is a keyword or an identifier; a quoted name is an identifier. -/
def readWord : Reader (TokenKind × Text) :=
  .firstOf [
    ofKind .identifier .quotedName,
    do
      let text ← Reader.word
      pure (if isReserved text then .keyword else .identifier, text)]

/-- One token and the layout behind it. -/
def read : Reader (TokenKind × Text) :=
  .firstOf [
    ofKind .string .string,
    ofKind .number .number,
    ofKind .placeholder .placeholder,
    readWord,
    ofKind .operator (.firstOf (operators.map .symbol)),
    ofKind .punctuation (.firstOf (punctuationMarks.map .symbol))]

/-- The token at a byte offset, or behind the layout there. -/
def at? (whole : Text) (position : Nat) : Option Token :=
  match Text.fromOffset? whole position with
  | none => none
  | some from_ =>
    let text := skipLayout from_
    if text.isEmpty then none
    else
      match read text with
      | .done (kind, written) _ => some { kind, text := written, position := Text.offsetOf whole text }
      | _ => none

end Token

end BulkSql
