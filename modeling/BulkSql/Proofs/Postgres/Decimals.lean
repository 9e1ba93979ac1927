import BulkSql.Proofs.Postgres.WireArrays
import Mathlib.Algebra.Order.Field.Rat
import Mathlib.Data.List.TakeWhile
import Mathlib.Data.Rat.Cast.Order
import Mathlib.Tactic.FieldSimp
import Mathlib.Tactic.NormNum

/-! # Numbers read back

Words with a sign and decimals are read back from their bytes. A reader of decimals knows groups of four digits, the
weight of the first one and a sign, and nothing of places: zeros that are left out at the end change no value.
-/

namespace BulkSql

/-! ## Words with a sign -/

namespace Word

/-- A number is in the range of words of a width with a sign. -/
def Holds (width : Nat) (n : Int) : Prop := -(Nat.pow 256 width / 2 : Nat) ≤ n ∧ n < (Nat.pow 256 width / 2 : Nat)

/-- A word in two's complement: the upper half of the words stands for negative numbers. -/
def signed (width word : Nat) : Int :=
  if word < Nat.pow 256 width / 2 then word else word - (Nat.pow 256 width : Nat)

variable {width : Nat} {n : Int}

theorem even_pow (some_ : 0 < width) : Nat.pow 256 width = 2 * (Nat.pow 256 width / 2) := by
  have next : Nat.pow 256 (width - 1 + 1) = 256 * Nat.pow 256 (width - 1) := Nat.mul_comm ..
  rw [Nat.sub_add_cancel some_] at next
  omega

theorem signed_mod (some_ : 0 < width) (holds : Holds width n) :
    signed width (n % (Nat.pow 256 width : Nat)).toNat = n := by
  have even := even_pow some_
  obtain ⟨low, high⟩ := holds
  unfold signed
  generalize Nat.pow 256 width = size at *
  by_cases negative : n < 0
  · have wrapped : n % (size : Int) = n + size := by
      rw [← Int.add_emod_right, Int.emod_eq_of_lt (by omega) (by omega)]
    rw [wrapped, if_neg (by omega)]
    omega
  · rw [Int.emod_eq_of_lt (by omega) (by omega), if_pos (by omega)]
    omega

end Word

namespace Wire

theorem readWord?_encodeInt {width : Nat} (n : Int) (rest : Bytes) :
    readWord? width (Word.encodeInt width n ++ rest) = some ((n % (Nat.pow 256 width : Nat)).toNat, rest) := by
  have positive : (0 : Int) < (Nat.pow 256 width : Nat) := Int.natCast_pos.mpr (Nat.pow_pos (by decide))
  have small := Int.emod_lt_of_pos n positive
  have sign := Int.emod_nonneg n (Int.ne_of_gt positive)
  exact readWord?_encode (by omega) rest

end Wire

/-! ## Decimals -/

/-- The number that a decimal writes. -/
def Decimal.toRat (d : Decimal) : ℚ := (if d.negative then -1 else 1) * (d.coefficient / 10 ^ d.scale)

namespace Numeric

/-- The number that groups of four digits write, the most significant first. -/
def ofGroups (groups : List Nat) : Nat := groups.foldl (fun n group => n * 10000 + group) 0

/-- A number of groups that take up all of the bytes. -/
def readGroups? : (count : Nat) → Bytes → Option (List Nat)
  | 0, bytes => if bytes.isEmpty then some [] else none
  | count + 1, bytes => do
    let (group, rest) ← Wire.readWord? 2 bytes
    let groups ← readGroups? count rest
    if group < 10000 then pure (group :: groups) else none

/-- The number that a decimal on the wire stands for. Its places say how it is written and not what it is. -/
def decode? (bytes : Bytes) : Option ℚ := do
  let (count, rest) ← Wire.readWord? 2 bytes
  let (weight, rest) ← Wire.readWord? 2 rest
  let (sign, rest) ← Wire.readWord? 2 rest
  let (_, rest) ← Wire.readWord? 2 rest
  let groups ← readGroups? count rest
  let size : ℚ := ofGroups groups * 10000 ^ (Word.signed 2 weight + 1 - count)
  match sign with
  | 0 => some size
  | 0x4000 => some (-size)
  | _ => none

/-! ## Groups of digits -/

variable {all front back : List Nat} {n : Nat}

theorem ofGroups_append_singleton (all : List Nat) (group : Nat) :
    ofGroups (all ++ [group]) = ofGroups all * 10000 + group := by
  simp [ofGroups]

theorem ofGroups_append_zeros (all : List Nat) (count : Nat) :
    ofGroups (all ++ List.replicate count 0) = ofGroups all * 10000 ^ count := by
  induction count with
  | zero => simp
  | succ count ih =>
    rw [List.replicate_succ', ← List.append_assoc, ofGroups_append_singleton, ih, Nat.pow_succ, Nat.add_zero,
      Nat.mul_assoc]

theorem ofGroups_groups (n : Nat) : ofGroups (groups n) = n := by
  fun_induction groups n with
  | case1 => rfl
  | case2 n some_ ih =>
    rw [ofGroups_append_singleton, ih]
    omega

theorem lt_of_mem_groups (n : Nat) : ∀ group ∈ groups n, group < 10000 := by
  fun_induction groups n with
  | case1 => exact List.forall_mem_nil _
  | case2 n some_ ih => exact List.forall_mem_append.mpr ⟨ih, List.forall_mem_singleton.mpr (Nat.mod_lt n (by decide))⟩

theorem length_groups_le {count : Nat} (small : n < 10000 ^ count) : (groups n).length ≤ count := by
  induction count generalizing n with
  | zero =>
    obtain rfl : n = 0 := by simpa using small
    rw [groups]
    simp
  | succ count ih =>
    rw [groups]
    split
    · simp
    · have shorter := @ih (n / 10000) (Nat.div_lt_of_lt_mul (by rwa [Nat.mul_comm, ← Nat.pow_succ]))
      rw [List.length_append, List.length_singleton]
      omega

theorem exists_trimZeros (all : List Nat) : ∃ count, all = trimZeros all ++ List.replicate count 0 := by
  have zeros : ∀ group ∈ all.reverse.takeWhile (· == 0), group = 0 := by
    intro group member
    simpa using List.mem_takeWhile_imp member
  refine ⟨(all.reverse.takeWhile (· == 0)).length, ?_⟩
  calc all
      = (all.reverse.takeWhile (· == 0) ++ all.reverse.dropWhile (· == 0)).reverse := by
        rw [List.takeWhile_append_dropWhile, List.reverse_reverse]
    _ = trimZeros all ++ (all.reverse.takeWhile (· == 0)).reverse := List.reverse_append
    _ = _ := by rw [List.eq_replicate_of_mem zeros, List.reverse_replicate, List.length_replicate]

/-- The groups that are not sent are zeros at the end. -/
theorem exists_filledGroups (d : Decimal) :
    ∃ count, filledGroups d = sentGroups d ++ List.replicate count 0 := by
  unfold sentGroups
  dsimp only
  split
  · obtain ⟨count, same⟩ := exists_trimZeros ((filledGroups d).drop ((weight d).toNat + 1))
    exact ⟨count, by rw [List.append_assoc, ← same, List.take_append_drop]⟩
  · exact ⟨0, (List.append_nil _).symm⟩

theorem length_filledGroups_le (d : Decimal) : (filledGroups d).length ≤ 8 := by
  apply length_groups_le
  have factor : Nat.pow 10 ((4 - d.scale % 4) % 4) ≤ 10 ^ 3 := Nat.pow_le_pow_right (by decide) (by omega)
  calc d.coefficient * Nat.pow 10 ((4 - d.scale % 4) % 4)
      ≤ d.coefficient * 10 ^ 3 := Nat.mul_le_mul_left _ factor
    _ < 2 ^ 96 * 10 ^ 3 := Nat.mul_lt_mul_of_pos_right d.coefficient_lt (by decide)
    _ < 10000 ^ 8 := by decide

/-- At most eight groups stand behind the four words. -/
theorem length_encode_le (d : Decimal) : (encode d).length ≤ 24 := by
  obtain ⟨count, split⟩ := exists_filledGroups d
  have size := congrArg List.length split
  have few := length_filledGroups_le d
  rw [List.length_append] at size
  have groups : ((sentGroups d).flatMap (Word.encode 2)).length = (sentGroups d).length * 2 := by
    simp [List.length_flatMap]
  rw [encode]
  by_cases zero : d.coefficient = 0
  · rw [if_pos zero, Word.length_encode]
    decide
  · rw [if_neg zero]
    simp only [List.length_append, Word.length_encode, Word.length_encodeInt, groups]
    omega

/-- The groups that are sent write the number at their weight. -/
theorem ofGroups_sentGroups (d : Decimal) :
    (ofGroups (sentGroups d) * 10000 ^ (weight d + 1 - (sentGroups d).length) : ℚ) = d.coefficient / 10 ^ d.scale := by
  obtain ⟨count, split⟩ := exists_filledGroups d
  have size := congrArg List.length split
  have number := congrArg ofGroups split
  rw [List.length_append, List.length_replicate] at size
  rw [filledGroups, ofGroups_groups, ofGroups_append_zeros] at number
  have exponent : weight d + 1 - ((sentGroups d).length : Int) = (count : Int) - ((d.scale + 3) / 4 : Nat) := by
    unfold weight
    omega
  have places : 4 * ((d.scale + 3) / 4) = (4 - d.scale % 4) % 4 + d.scale := by omega
  rw [exponent, zpow_sub₀ (by norm_num), zpow_natCast, zpow_natCast]
  have number' : (d.coefficient * 10 ^ ((4 - d.scale % 4) % 4) : ℚ) = ofGroups (sentGroups d) * 10000 ^ count := by
    exact_mod_cast number
  rw [show (10000 : ℚ) ^ ((d.scale + 3) / 4) = 10 ^ ((4 - d.scale % 4) % 4) * 10 ^ d.scale by
    rw [← pow_add, ← places, pow_mul]; norm_num]
  rw [← mul_div_assoc, ← number']
  field_simp

theorem readGroups?_flatMap {all : List Nat} (small : ∀ group ∈ all, group < 10000) :
    readGroups? all.length (all.flatMap (Word.encode 2)) = some all := by
  induction all with
  | nil => rfl
  | cons group all ih =>
    obtain ⟨first, others⟩ := List.forall_mem_cons.mp small
    rw [List.length_cons, List.flatMap_cons, readGroups?,
      Wire.readWord?_encode (Nat.lt_trans first (by decide)), Option.bind_eq_bind, Option.bind_some]
    dsimp only
    rw [ih others, Option.bind_eq_bind, Option.bind_some, if_pos first]
    rfl

/-- Four words of zero write no groups. -/
theorem decode?_zero : decode? (Word.encode 8 0) = some 0 := by
  have words : Word.encode 8 0 = Word.encode 2 0 ++ (Word.encode 2 0 ++ (Word.encode 2 0 ++ (Word.encode 2 0 ++ []))) :=
    rfl
  rw [words, decode?]
  simp only [Wire.readWord?_encode (show 0 < Nat.pow 256 2 by decide), Option.bind_eq_bind, Option.bind_some]
  simp [readGroups?, ofGroups]

/-- A decimal is read back as the number that it writes. -/
theorem decode?_encode (d : Decimal) : decode? (encode d) = some d.toRat := by
  by_cases zero : d.coefficient = 0
  · rw [encode, if_pos zero, decode?_zero, Decimal.toRat, zero]
    simp
  obtain ⟨count, split⟩ := exists_filledGroups d
  have size := congrArg List.length split
  have few := length_filledGroups_le d
  rw [List.length_append] at size
  have small : ∀ group ∈ sentGroups d, group < 10000 := fun group member =>
    lt_of_mem_groups _ group (show group ∈ filledGroups d from split ▸ List.mem_append_left _ member)
  have heavy : Word.Holds 2 (weight d) := by
    have := d.scale_le
    unfold Word.Holds weight
    change -32768 ≤ _ ∧ _ < (32768 : Int)
    omega
  have scale : d.scale < Nat.pow 256 2 := Nat.lt_of_le_of_lt d.scale_le (by decide)
  have count : (sentGroups d).length < Nat.pow 256 2 := Nat.lt_of_le_of_lt (show _ ≤ 8 by omega) (by decide)
  rw [encode, if_neg zero, decode?]
  simp only [List.append_assoc, Option.bind_eq_bind]
  rw [Wire.readWord?_encode count, Option.bind_some]
  dsimp only
  rw [Wire.readWord?_encodeInt, Option.bind_some]
  dsimp only
  rw [Wire.readWord?_encode (by split <;> decide), Option.bind_some]
  dsimp only
  rw [Wire.readWord?_encode scale, Option.bind_some]
  dsimp only
  rw [readGroups?_flatMap small, Option.bind_some, Word.signed_mod (by decide) heavy, ofGroups_sentGroups, Decimal.toRat]
  cases d.negative <;> simp

end Numeric

end BulkSql
