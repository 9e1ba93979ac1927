import BulkSql.Text.Basic

/-! # Numerals

Numbers in decimal and hexadecimal digits. A width fills up with zeros in front.
-/

namespace BulkSql

namespace Text

/-- The number of a hexadecimal digit in any case. -/
def hexValue? (c : Char) : Option Nat :=
  if '0' ≤ c ∧ c ≤ '9' then some (c.toNat - '0'.toNat)
  else if 'a' ≤ c ∧ c ≤ 'f' then some (c.toNat - 'a'.toNat + 10)
  else if 'A' ≤ c ∧ c ≤ 'F' then some (c.toNat - 'A'.toNat + 10)
  else none

/-- The digits of a number in base 16, in lower case, with zeros in front up to a width. -/
def hex (width n : Nat) : Text :=
  let digits := Nat.toDigits 16 n
  List.replicate (width - digits.length) '0' ++ digits

/-- The number that hexadecimal digits write. -/
def hexNumber? (digits : Text) : Option Nat :=
  digits.foldlM (fun n c => (hexValue? c).map (16 * n + ·)) 0

/-- The digits of a number in base 10 with zeros in front up to a width. -/
def padded (width n : Nat) : Text :=
  let digits := ofNat n
  List.replicate (width - digits.length) '0' ++ digits

/-- The number that decimal digits write. No digits write no number. -/
def number? (digits : Text) : Option Nat :=
  if digits.isEmpty || !digits.all Char.isDigit then none
  else some (digits.foldl (fun n d => 10 * n + (d.toNat - '0'.toNat)) 0)

/-- The number that decimal digits write, with or without a plus sign, if it is below a bound. -/
def numberBelow? (bound : Nat) (written : Text) : Option Nat := do
  let n ← number? (match written with
    | '+' :: digits => digits
    | digits => digits)
  if n < bound then some n else none

/-- The number that decimal digits write, with or without a sign, if it fits 64 bits. -/
def integer64? : Text → Option Int
  | '-' :: digits => do
    let n ← number? digits
    if n ≤ Nat.pow 2 63 then some (-n) else none
  | written => (numberBelow? (Nat.pow 2 63) written).map Int.ofNat

end Text

end BulkSql
