import BulkSql.Text.Utf8

/-! # UTF-8 that was written is read again

The bytes of a character are one unit, whatever follows them; so bytes that a text was written as are read as this
text. And a reading that puts one ASCII character in the place of another can do so among the bytes.
-/

namespace BulkSql

namespace Utf8

/-! ## One character -/

theorem tails_continuation {owed low high n : Nat} (bits taken : Nat) (rest : Bytes) (least : low ≤ n % 64 + 128)
    (most : n % 64 + 128 ≤ high) :
    tails (owed + 1) low high bits taken (UInt8.ofNat (n % 64 + 128) :: rest) =
      tails owed 0x80 0xbf (64 * bits + n % 64) (taken + 1) rest := by
  have value : (UInt8.ofNat (n % 64 + 128)).toNat = n % 64 + 128 :=
    UInt8.toNat_ofNat_of_lt' (show n % 64 + 128 < 256 by omega)
  have low_bits : (n % 64 + 128) % 64 = n % 64 := by omega
  simp only [tails, value, least, most, and_self, if_true, low_bits]

theorem first_of_ascii {b : UInt8} (ascii : b.toNat < 0x80) (rest : Bytes) :
    first b rest = (.char (Char.ofNat b.toNat), rest) := by
  have lead : lead? b.toNat = some (0, 0x80, 0xbf, b.toNat) := by rw [lead?, if_pos (Nat.le_of_lt_succ ascii)]
  simp only [first, lead, tails]

/-- The lead byte of two. -/
theorem lead?_two {n : Nat} (least : 0x7f < n) (most : n ≤ 0x7ff) :
    lead? (n / 64 % 32 + 192) = some (1, 0x80, 0xbf, n / 64) := by
  have place : n / 64 % 32 = n / 64 := by omega
  rw [place, lead?, if_neg (by omega), if_pos (by omega), Nat.add_sub_cancel]

/-- The lead byte of three. What it lets the next byte be are the code points of this length but for surrogates. -/
theorem lead?_three {n : Nat} (least : 0x7ff < n) (most : n ≤ 0xffff) (valid : n < 0xd800 ∨ 0xdfff < n) :
    ∃ low high, lead? (n / 4096 % 16 + 224) = some (2, low, high, n / 4096) ∧
      low ≤ n / 64 % 64 + 128 ∧ n / 64 % 64 + 128 ≤ high := by
  have place : n / 4096 % 16 = n / 4096 := by omega
  have two : ¬ (n / 4096 + 224 ≤ 0x7f) ∧ ¬ (0xc2 ≤ n / 4096 + 224 ∧ n / 4096 + 224 ≤ 0xdf) := by omega
  rw [place, lead?, if_neg two.1, if_neg two.2]
  by_cases smallest : n / 4096 + 224 = 0xe0
  · exact ⟨0xa0, 0xbf, by rw [if_pos smallest]; simp; omega, by omega, by omega⟩
  rw [if_neg smallest]
  by_cases surrogate : n / 4096 + 224 = 0xed
  · exact ⟨0x80, 0x9f, by rw [if_pos surrogate]; simp; omega, by omega, by omega⟩
  rw [if_neg surrogate, if_pos (by omega)]
  exact ⟨0x80, 0xbf, by simp, by omega, by omega⟩

/-- The lead byte of four. -/
theorem lead?_four {n : Nat} (least : 0xffff < n) (most : n < 0x110000) :
    ∃ low high, lead? (n / 262144 % 8 + 240) = some (3, low, high, n / 262144) ∧
      low ≤ n / 4096 % 64 + 128 ∧ n / 4096 % 64 + 128 ≤ high := by
  have place : n / 262144 % 8 = n / 262144 := by omega
  rw [place, lead?, if_neg (by omega), if_neg (by omega), if_neg (by omega), if_neg (by omega), if_neg (by omega)]
  by_cases smallest : n / 262144 + 240 = 0xf0
  · exact ⟨0x90, 0xbf, by rw [if_pos smallest]; simp; omega, by omega, by omega⟩
  rw [if_neg smallest]
  by_cases middle : 0xf1 ≤ n / 262144 + 240 ∧ n / 262144 + 240 ≤ 0xf3
  · exact ⟨0x80, 0xbf, by rw [if_pos middle]; simp, by omega, by omega⟩
  · exact ⟨0x80, 0x8f, by rw [if_neg middle, if_pos (by omega)]; simp; omega, by omega, by omega⟩

/-- The bytes of a character are its unit. -/
theorem units_utf8EncodeChar (c : Char) (rest : Bytes) :
    units (String.utf8EncodeChar c ++ rest) = .char c :: units rest := by
  have valid : c.toNat < 0xd800 ∨ 0xdfff < c.toNat ∧ c.toNat < 0x110000 := c.valid
  have char : Char.ofNat c.toNat = c := Char.ofNat_toNat c
  have byte : ∀ {n : Nat}, n < 256 → (UInt8.ofNat n).toNat = n := UInt8.toNat_ofNat_of_lt'
  unfold String.utf8EncodeChar
  simp only [show c.val.toNat = c.toNat from rfl]
  generalize c.toNat = n at valid char
  by_cases one : n ≤ 0x7f
  · have value : (UInt8.ofNat n).toNat = n := byte (by omega)
    rw [if_pos one, List.cons_append, List.nil_append, units, first_of_ascii (by omega), value, char]
  rw [if_neg one]
  by_cases two : n ≤ 0x7ff
  · have bits : 64 * (n / 64) + n % 64 = n := by omega
    rw [if_pos two]
    simp only [List.cons_append, List.nil_append, units, first, byte (by omega : n / 64 % 32 + 192 < 256),
      lead?_two (by omega) two]
    rw [tails_continuation _ _ _ (by omega) (by omega), bits]
    simp only [tails, char]
  rw [if_neg two]
  by_cases three : n ≤ 0xffff
  · have bits : 64 * (64 * (n / 4096) + n / 64 % 64) + n % 64 = n := by omega
    obtain ⟨low, high, lead, least, most⟩ := lead?_three (by omega) three (by omega)
    rw [if_pos three]
    simp only [List.cons_append, List.nil_append, units, first, byte (by omega : n / 4096 % 16 + 224 < 256), lead]
    rw [tails_continuation _ _ _ least most, tails_continuation _ _ _ (by omega) (by omega), bits]
    simp only [tails, char]
  · have bits : 64 * (64 * (64 * (n / 262144) + n / 4096 % 64) + n / 64 % 64) + n % 64 = n := by omega
    obtain ⟨low, high, lead, least, most⟩ := lead?_four (n := n) (by omega) (by omega)
    rw [if_neg three]
    simp only [List.cons_append, List.nil_append, units, first, byte (by omega : n / 262144 % 8 + 240 < 256), lead]
    rw [tails_continuation _ _ _ least most, tails_continuation _ _ _ (by omega) (by omega),
      tails_continuation _ _ _ (by omega) (by omega), bits]
    simp only [tails, char]

/-! ## Texts -/

@[simp] theorem encode_nil : encode [] = [] := rfl

@[simp] theorem encode_cons (c : Char) (text : Text) : encode (c :: text) = String.utf8EncodeChar c ++ encode text :=
  rfl

/-- A text takes at least one byte for each character. -/
theorem length_le_length_encode (text : Text) : text.length ≤ (encode text).length := by
  induction text with
  | nil => exact Nat.le_refl 0
  | cons c text ih =>
    have some_ := c.utf8Size_pos
    rw [encode_cons, List.length_append, String.length_utf8EncodeChar, List.length_cons]
    omega

theorem units_encode (text : Text) : units (encode text) = text.map .char := by
  induction text with
  | nil => simp [units]
  | cons c text ih => rw [encode_cons, units_utf8EncodeChar, ih, List.map_cons]

theorem decodeLenient_encode (text : Text) : decodeLenient (encode text) = text := by
  rw [decodeLenient, units_encode, List.map_map]
  exact List.map_id text

/-! ## One ASCII character in the place of another

No byte of a longer character is ASCII. So a map of bytes that moves ASCII only changes no more than the characters that
are moved, even among bytes that are no text. -/

section Swapped

variable {swap : UInt8 → UInt8} (fixes : ∀ b, 0x80 ≤ b.toNat → swap b = b)
  (keeps : ∀ b, b.toNat < 0x80 → (swap b).toNat < 0x80)

include fixes keeps

theorem tails_map (owed high bits taken : Nat) {low : Nat} (bytes : Bytes) (above : 0x80 ≤ low) :
    tails owed low high bits taken (bytes.map swap) =
      ((tails owed low high bits taken bytes).1, (tails owed low high bits taken bytes).2.map swap) := by
  induction bytes generalizing owed low high bits taken with
  | nil => cases owed <;> rfl
  | cons b rest ih =>
    cases owed with
    | zero => rfl
    | succ owed =>
      simp only [List.map_cons, tails]
      by_cases ascii : b.toNat < 0x80
      · have moved := keeps b ascii
        rw [if_neg (by omega), if_neg (by omega), List.map_cons]
      · rw [fixes b (by omega)]
        split
        · exact ih _ _ _ _ (Nat.le_refl _)
        · rw [List.map_cons, fixes b (by omega)]

theorem first_map {b : UInt8} (high : 0x80 ≤ b.toNat) (rest : Bytes) :
    first b (rest.map swap) = ((first b rest).1, (first b rest).2.map swap) := by
  unfold first
  split
  · next owed low high' bits lead =>
    refine tails_map fixes keeps _ _ _ _ _ ?_
    unfold lead? at lead
    grind
  · rfl

/-- A reader that does not tell the two characters apart reads the same. -/
theorem decodeLenient_map (read : Char → Char)
    (blind : ∀ b, b.toNat < 0x80 → read (Char.ofNat (swap b).toNat) = read (Char.ofNat b.toNat)) (bytes : Bytes) :
    (decodeLenient (bytes.map swap)).map read = (decodeLenient bytes).map read := by
  -- unit by unit: a unit that starts with ASCII is this character, any other is kept as it is
  induction bytes using units.induct with
  | case1 => rfl
  | case2 b rest ih =>
    by_cases ascii : b.toNat < 0x80
    · rw [first_of_ascii ascii] at ih
      simpa only [List.map_cons, decodeLenient, units, first_of_ascii ascii, first_of_ascii (keeps b ascii), lenient,
        List.cons.injEq, blind b ascii, true_and] using ih
    · have high : 0x80 ≤ b.toNat := by omega
      simpa only [List.map_cons, decodeLenient, units, fixes b high, first_map fixes keeps high, List.cons.injEq,
        true_and] using ih

end Swapped

end Utf8

end BulkSql
