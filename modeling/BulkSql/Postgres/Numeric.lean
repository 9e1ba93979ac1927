import BulkSql.Postgres.Word
import BulkSql.Value.Decimal

/-! # Decimals on the wire

A decimal is sent as groups of four digits around its point. Four words stand in front: the number of groups, the
weight of the first group as a power of ten thousand, the sign, and the places behind the point. Zero has no groups
and no places.
-/

namespace BulkSql

namespace Numeric

/-- The digits of a number in base ten thousand, the most significant first. Zero has none. -/
def groups (n : Nat) : List Nat := if n = 0 then [] else groups (n / 10000) ++ [n % 10000]

/-- The list without the zeros at its end. -/
def trimZeros (groups : List Nat) : List Nat := (groups.reverse.dropWhile (· == 0)).reverse

/-- The groups of a decimal, with the places behind its point filled up to whole groups. -/
def filledGroups (d : Decimal) : List Nat := groups (d.coefficient * Nat.pow 10 ((4 - d.scale % 4) % 4))

/-- The weight of the first group. -/
def weight (d : Decimal) : Int := (filledGroups d).length - ((d.scale + 3) / 4 : Nat) - 1

/-- The groups that are sent: behind the point, zeros at the end are left out where a group stands before it. -/
def sentGroups (d : Decimal) : List Nat :=
  let all := filledGroups d
  if 0 ≤ weight d then
    let whole := (weight d).toNat + 1
    all.take whole ++ trimZeros (all.drop whole)
  else all

def encode (d : Decimal) : Bytes :=
  if d.coefficient = 0 then Word.encode 8 0
  else
    Word.encode 2 (sentGroups d).length ++ Word.encodeInt 2 (weight d) ++
      Word.encode 2 (if d.negative then 0x4000 else 0) ++ Word.encode 2 d.scale ++
      (sentGroups d).flatMap (Word.encode 2)

end Numeric

end BulkSql
