import BulkSql.Text.Numeral
import BulkSql.Text.Utf8

/-! # Percent encoding and web forms

A byte may be written as a percent sign and two hexadecimal digits. A web form is a list of pairs joined by
ampersands, in which a plus sign stands for a space.
-/

namespace BulkSql

namespace Percent

/-- A byte as a percent sign and two digits in upper case. -/
def escape (b : UInt8) : Text := '%' :: Text.upperCase (Text.hex 2 b.toNat)

/-- Write the characters of a set, and all that are not ASCII, by their bytes. -/
def encode (set : Char → Bool) (text : Text) : Text :=
  text.flatMap fun c => if c.toNat < 0x80 && !set c then [c] else (String.utf8EncodeChar c).flatMap escape

/-- The bytes of a text. A percent sign without two digits behind it stands for itself. -/
def decode : Text → Bytes
  | '%' :: high :: low :: rest =>
    match Text.hexValue? high, Text.hexValue? low with
    | some h, some l => UInt8.ofNat (16 * h + l) :: decode rest
    | _, _ => String.utf8EncodeChar '%' ++ decode (high :: low :: rest)
  | c :: rest => String.utf8EncodeChar c ++ decode rest
  | [] => []

end Percent

/-- Pairs of a web form in order. -/
abbrev Form := List (Text × Text)

namespace Form

/-- A key or value as it is meant. -/
def decodePart (part : Text) : Text :=
  Utf8.decodeLenient (Percent.decode (part.map fun c => if c = '+' then ' ' else c))

/-- A pair is split at its first equals sign; without one its value is empty. -/
def decodePair (part : Text) : Text × Text :=
  (decodePart (part.takeWhile (· != '=')), decodePart ((part.dropWhile (· != '=')).drop 1))

/-- The pairs of a form. Empty parts are no pairs. -/
def decode (form : Text) : Form := ((Text.split '&' form).filter (!·.isEmpty)).map decodePair

/-- Characters of a form that stand for themselves. -/
def isLiteral (c : Char) : Bool := c.isAlphanum || c == '*' || c == '-' || c == '.' || c == '_'

def encodePart (text : Text) : Text :=
  text.flatMap fun c =>
    if isLiteral c then [c] else if c = ' ' then ['+'] else (String.utf8EncodeChar c).flatMap Percent.escape

def encode (form : Form) : Text :=
  Text.join ['&'] (form.map fun (key, value) => encodePart key ++ '=' :: encodePart value)

end Form

end BulkSql
