import BulkSql.Text.Basic

/-! # Blank characters

The characters with the Unicode property White_Space, and cutting them off the ends of a text.
-/

namespace BulkSql

/-- The code points of the property White_Space, as closed ranges. -/
def blankRanges : List (Nat × Nat) :=
  [(0x09, 0x0d), (0x20, 0x20), (0x85, 0x85), (0xa0, 0xa0), (0x1680, 0x1680), (0x2000, 0x200a), (0x2028, 0x2029),
    (0x202f, 0x202f), (0x205f, 0x205f), (0x3000, 0x3000)]

def isBlank (c : Char) : Bool := blankRanges.any fun (low, high) => low ≤ c.toNat && c.toNat ≤ high

namespace Text

/-- The text without the blanks it starts with. -/
def trimStart (text : Text) : Text := text.dropWhile isBlank

/-- The text without the blanks it ends in. -/
def trimEnd (text : Text) : Text := (text.reverse.dropWhile isBlank).reverse

end Text

end BulkSql
