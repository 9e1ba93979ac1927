import BulkSql.Syntax.ParseError

/-! # Token lists

A text is cut into tokens from left to right; layout between them is dropped. The cut stops at the first character
that starts no token.
-/

namespace BulkSql

namespace Token

/-- The tokens of a suffix of a text that starts with no layout. -/
def listFrom (whole rest : Text) : Except ParseError (List Token) :=
  if rest.isEmpty then .ok []
  else
    match read rest with
    | .done (kind, text) rest' =>
      if rest'.length < rest.length then
        match listFrom whole rest' with
        | .ok tokens => .ok ({ kind, text, position := Text.offsetOf whole rest } :: tokens)
        | .error error => .error error
      else .error (.unrecognized whole rest)
    | _ => .error (.unrecognized whole rest)
termination_by rest.length

end Token

/-- The tokens of a text in order. -/
def tokenize (text : Text) : Except ParseError (List Token) := Token.listFrom text (skipLayout text)

end BulkSql
