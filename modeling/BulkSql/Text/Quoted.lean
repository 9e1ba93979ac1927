import BulkSql.Text.Basic
import BulkSql.Text.Unprintable

/-! # Quoted texts in messages

A text between double quotes in which every character can be seen: quotes and backslashes are escaped, common control
characters have short escapes, and what has no picture of its own is written by its code point.
-/

namespace BulkSql

namespace Text

/-- A character by its code point in hexadecimal digits. -/
def codePoint (c : Char) : Text := "\\u\x7b" ++ Nat.toDigits 16 c.toNat ++ "\x7d"

/-- A character inside double quotes. -/
def escaped (c : Char) : Text :=
  match c with
  | '\x00' => "\\0"
  | '\t' => "\\t"
  | '\r' => "\\r"
  | '\n' => "\\n"
  | '"' => "\\\""
  | '\\' => "\\\\"
  | c => if isUnprintable c then codePoint c else [c]

def quoted (text : Text) : Text := '"' :: text.flatMap escaped ++ ['"']

end Text

end BulkSql
