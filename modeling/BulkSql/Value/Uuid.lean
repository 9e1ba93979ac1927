import BulkSql.Text.Numeral

/-! # Universally unique identifiers

128 bits, written as 32 hexadecimal digits in groups of 8, 4, 4, 4 and 12.
-/

namespace BulkSql

abbrev Uuid := BitVec 128

namespace Uuid

def ofText? (written : Text) : Option Uuid := do
  let digits := written.filter (· != '-')
  let number ← Text.hexNumber? digits
  if digits.length = 32 then some (BitVec.ofNat 128 number) else none

def text (uuid : Uuid) : Text :=
  let digits := Text.hex 32 uuid.toNat
  Text.join ['-'] [digits.take 8, (digits.drop 8).take 4, (digits.drop 12).take 4, (digits.drop 16).take 4,
    digits.drop 20]

end Uuid

end BulkSql
