import BulkSql.Text.Numeral

/-! # Decimal numbers

A coefficient of at most 96 bits with up to 28 places behind the point. The places are kept, so that 1.5 and 1.50 are
two decimals; zero has no sign.
-/

namespace BulkSql

structure Decimal where
  negative : Bool
  coefficient : Nat
  scale : Nat
  coefficient_lt : coefficient < Nat.pow 2 96
  scale_le : scale ≤ 28
  positive_zero : coefficient = 0 → negative = false
deriving DecidableEq, Repr

namespace Decimal

/-- A decimal from its parts, if they fit. -/
def ofParts? (negative : Bool) (coefficient scale : Nat) : Option Decimal :=
  if fits : coefficient < Nat.pow 2 96 ∧ scale ≤ 28 then
    some {
      negative := negative && coefficient != 0
      coefficient, scale
      coefficient_lt := fits.1
      scale_le := fits.2
      positive_zero := by intro zero; simp [zero] }
  else none

/-- A 64-bit number with a sign. -/
def ofInt64 (n : Int64) : Decimal where
  negative := decide (n.toInt < 0)
  coefficient := n.toInt.natAbs
  scale := 0
  coefficient_lt := by have := n.toInt_lt; have := n.le_toInt; simp only [Nat.pow_eq]; omega
  scale_le := by omega
  positive_zero := by intro zero; simp; omega

/-- A 64-bit number without a sign. -/
def ofUInt64 (n : UInt64) : Decimal where
  negative := false
  coefficient := n.toNat
  scale := 0
  coefficient_lt := by have := n.toNat_lt; simp only [Nat.pow_eq]; omega
  scale_le := by omega
  positive_zero := by simp

/-- The decimal with all its places. -/
def text (d : Decimal) : Text :=
  let sign : Text := if d.negative then ['-'] else []
  let unit := Nat.pow 10 d.scale
  let whole := Text.ofNat (d.coefficient / unit)
  if d.scale = 0 then sign ++ whole else sign ++ whole ++ '.' :: Text.padded d.scale (d.coefficient % unit)

/-- Read a decimal with an optional sign and an optional point. -/
def ofText? (written : Text) : Option Decimal := do
  let (negative, digits) := match written with
    | '-' :: rest => (true, rest)
    | '+' :: rest => (false, rest)
    | rest => (false, rest)
  let whole := digits.takeWhile (· != '.')
  let places := (digits.dropWhile (· != '.')).drop 1
  ofParts? negative (← Text.number? (whole ++ places)) places.length

end Decimal

end BulkSql
