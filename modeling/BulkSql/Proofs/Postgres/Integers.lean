import BulkSql.Postgres.Parameter
import BulkSql.Proofs.Postgres.ColumnArrays
import BulkSql.Proofs.Postgres.Decimals

/-! # Integers on the wire

An integer of a program, of any width and with or without a sign, is bound as some SQL value and sent as what the
parameter takes: a word of two, four or eight bytes, or a decimal. It arrives as the same integer, or it is refused, and
refused only where the word has no room for it or where an integer of 64 bits without a sign would go into a word.
-/

namespace BulkSql

/-- The integer that a value of an integer type is. -/
def HostValue.integer? : HostValue → Option Int
  | int8 value => some value.toInt
  | int16 value => some value.toInt
  | int32 value => some value.toInt
  | int64 value => some value.toInt
  | uint8 value => some value.toNat
  | uint16 value => some value.toNat
  | uint32 value => some value.toNat
  | uint64 value => some value.toNat
  | _ => none

/-- The bytes of a word, for the types that are sent as one. -/
def PgScalar.wordWidth? : PgScalar → Option Nat
  | int2 => some 2
  | int4 => some 4
  | int8 => some 8
  | _ => none

/-- The types that take integers as they are. -/
def PgScalar.integral : List PgScalar := [int2, int4, int8, numeric]

namespace Wire

/-- The integer that bytes stand for at a type: a word with a sign, or a decimal that has nothing behind its point. -/
def readInteger? (type : PgScalar) (bytes : Bytes) : Option Int :=
  match type.wordWidth? with
  | some width => if bytes.length = width then some (Word.signed width (Word.decode bytes)) else none
  | none => (Numeric.decode? bytes).bind fun number => if number.den = 1 then some number.num else none

variable {type : PgScalar} {width : Nat} {n : Int} {value : SqlValue} {word : Int64}

/-! ## Words -/

theorem wordWidth_pos (isWord : type.wordWidth? = some width) : 0 < width := by
  cases type <;> cases isWord <;> decide

theorem integral_of_wordWidth? (isWord : type.wordWidth? = some width) : type ∈ PgScalar.integral := by
  cases type <;> cases isWord <;> decide

theorem readInteger?_encodeInt (isWord : type.wordWidth? = some width) (holds : Word.Holds width n) :
    readInteger? type (Word.encodeInt width n) = some n := by
  have positive : (0 : Int) < (Nat.pow 256 width : Nat) := Int.natCast_pos.mpr (Nat.pow_pos (by decide))
  have small := Int.emod_lt_of_pos n positive
  have sign := Int.emod_nonneg n (Int.ne_of_gt positive)
  have decoded : Word.decode (Word.encodeInt width n) = (n % (Nat.pow 256 width : Nat)).toNat := by
    rw [Word.encodeInt, Word.decode_encode, Nat.mod_eq_of_lt (by omega)]
  rw [readInteger?, isWord]
  dsimp only
  rw [if_pos (Word.length_encodeInt width n), decoded, Word.signed_mod (wordWidth_pos isWord) holds]

/-- A number that has no room in a narrower word is refused. -/
theorem exists_error_of_narrow (misfit : ¬Word.Holds width word.toInt) : ∃ error, narrow width word = .error error := by
  unfold narrow
  split
  · exact ⟨_, rfl⟩
  · next low =>
    rw [if_pos]
    · exact ⟨_, rfl⟩
    · by_contra high
      exact misfit ⟨Int.not_lt.mp low, Int.not_le.mp high⟩

theorem holds_eight (word : Int64) : Word.Holds 8 word.toInt := ⟨word.le_toInt, word.toInt_lt⟩

/-- An integer goes into a word exactly if it is in the range of the word. -/
theorem integer_word (word : Int64) (isWord : type.wordWidth? = some width) :
    (Word.Holds width word.toInt → integer word type = .ok (Word.encodeInt width word.toInt)) ∧
      (¬Word.Holds width word.toInt → ∃ error, integer word type = .error error) := by
  cases type <;> cases isWord
  · exact ⟨fun _ => rfl, fun misfit => absurd (holds_eight word) misfit⟩
  · exact ⟨fun holds => narrow_of_fits holds.1 holds.2, exists_error_of_narrow⟩
  · exact ⟨fun holds => narrow_of_fits holds.1 holds.2, exists_error_of_narrow⟩

/-! ## Decimals -/

theorem toRat_ofInt64 (word : Int64) : (Decimal.ofInt64 word).toRat = word.toInt := by
  have parts : (Decimal.ofInt64 word).toRat = (if word.toInt < 0 then -1 else 1) * ((word.toInt.natAbs : Int) : ℚ) := by
    simp [Decimal.toRat, Decimal.ofInt64]
  rw [parts]
  split
  · have size : (word.toInt.natAbs : Int) = -word.toInt := by omega
    rw [size, Int.cast_neg, neg_one_mul, neg_neg]
  · have size : (word.toInt.natAbs : Int) = word.toInt := by omega
    rw [size, one_mul]

theorem toRat_ofUInt64 (word : UInt64) : (Decimal.ofUInt64 word).toRat = ((word.toNat : Int) : ℚ) := by
  simp [Decimal.toRat, Decimal.ofUInt64]

theorem readInteger?_decimal {d : Decimal} (whole : d.toRat = n) :
    readInteger? .numeric (Numeric.encode d) = some n := by
  change (Numeric.decode? (Numeric.encode d)).bind _ = _
  rw [Numeric.decode?_encode, whole, Option.bind_some, Rat.den_intCast, Rat.num_intCast]
  rfl

/-! ## What integers are bound as -/

/-- The word that a bound integer is before it is sent. -/
def word? : SqlValue → Option Int64
  | .byte value => some value.toInt64
  | .short value => some value.toInt64
  | .int value => some value.toInt64
  | .long value => some value
  | _ => none

theorem encode_of_word? (isWord : word? value = some word) :
    encode value (.scalar type) = (integer word type).map some := by
  cases value <;> cases isWord <;> rfl

/-- A word is in the range of the type that it is bound as. -/
theorem holds_sqlType (isWord : word? value = some word) :
    ∃ width, value.sqlType.server.wordWidth? = some width ∧ Word.Holds width word.toInt := by
  cases value <;> cases isWord
  case byte value =>
    have low := value.le_toInt
    have high := value.toInt_lt
    refine ⟨2, rfl, ?_⟩
    rw [Int8.toInt_toInt64]
    constructor
    · change (-32768 : Int) ≤ _
      omega
    · change _ < (32768 : Int)
      omega
  case short value =>
    refine ⟨2, rfl, ?_⟩
    rw [Int16.toInt_toInt64]
    exact ⟨value.le_toInt, value.toInt_lt⟩
  case int value =>
    refine ⟨4, rfl, ?_⟩
    rw [Int32.toInt_toInt64]
    exact ⟨value.le_toInt, value.toInt_lt⟩
  case long => exact ⟨8, rfl, holds_eight _⟩

/-- An integer is bound as a word, or, of 64 bits without a sign, as a decimal. -/
theorem bound_of_integer? {host : HostValue} (isInteger : host.integer? = some n) :
    (∃ value word, host.classify? = some value ∧ word? value = some word ∧ word.toInt = n ∧
        ∀ unsigned, host ≠ .uint64 unsigned) ∨
      ∃ unsigned, host = .uint64 unsigned ∧ n = unsigned.toNat := by
  cases host <;> cases isInteger
  case int8 value => exact .inl ⟨_, _, rfl, rfl, value.toInt_toInt64, nofun⟩
  case int16 value => exact .inl ⟨_, _, rfl, rfl, value.toInt_toInt64, nofun⟩
  case int32 value => exact .inl ⟨_, _, rfl, rfl, value.toInt_toInt64, nofun⟩
  case int64 value => exact .inl ⟨_, _, rfl, rfl, rfl, nofun⟩
  case uint8 value =>
    have small := value.toNat_lt
    exact .inl ⟨_, _, rfl, rfl, (Int16.toInt_toInt64 _).trans (Int16.toInt_ofNat_of_lt (by omega)), nofun⟩
  case uint16 value =>
    have small := value.toNat_lt
    exact .inl ⟨_, _, rfl, rfl, (Int32.toInt_toInt64 _).trans (Int32.toInt_ofNat_of_lt (by omega)), nofun⟩
  case uint32 value =>
    have small := value.toNat_lt
    exact .inl ⟨_, _, rfl, rfl, Int64.toInt_ofNat_of_lt (by omega), nofun⟩
  case uint64 value => exact .inr ⟨value, rfl, rfl⟩

theorem eq_numeric_of_integral (integral : type ∈ PgScalar.integral) (noWord : type.wordWidth? = none) :
    type = .numeric := by
  simp only [PgScalar.integral, List.mem_cons, List.not_mem_nil, or_false] at integral
  rcases integral with rfl | rfl | rfl | rfl
  · cases noWord
  · cases noWord
  · cases noWord
  · rfl

/-! ## Arrival -/

/-- A bound word is read back from what is sent of it, and refused by the words that have no room for it. -/
theorem word_arrives (isWord : word? value = some word) (integral : type ∈ PgScalar.integral) :
    (∀ wire, encode value (.scalar type) = .ok wire →
        ∃ bytes, wire = some bytes ∧ readInteger? type bytes = some word.toInt) ∧
      ((∃ error, encode value (.scalar type) = .error error) ↔
        ∃ width, type.wordWidth? = some width ∧ ¬Word.Holds width word.toInt) := by
  rw [encode_of_word? isWord]
  cases size : type.wordWidth? with
  | some width =>
    obtain ⟨fitting, misfit⟩ := integer_word word size
    by_cases holds : Word.Holds width word.toInt
    · rw [fitting holds]
      constructor
      · rintro _ ⟨⟩
        exact ⟨_, rfl, readInteger?_encodeInt size holds⟩
      · constructor
        · rintro ⟨_, ⟨⟩⟩
        · rintro ⟨_, ⟨⟩, outside⟩
          exact absurd holds outside
    · obtain ⟨error, refused⟩ := misfit holds
      rw [refused]
      exact ⟨nofun, fun _ => ⟨width, rfl, holds⟩, fun _ => ⟨error, rfl⟩⟩
  | none =>
    obtain rfl := eq_numeric_of_integral integral size
    refine ⟨?_, nofun, nofun⟩
    rintro _ ⟨⟩
    exact ⟨_, rfl, readInteger?_decimal (toRat_ofInt64 word)⟩

/-- An integer of 64 bits without a sign is sent as a decimal or not at all. -/
theorem unsigned_arrives (unsigned : UInt64) (integral : type ∈ PgScalar.integral) :
    (∀ wire, encode (.decimal (.ofUInt64 unsigned)) (.scalar type) = .ok wire →
        ∃ bytes, wire = some bytes ∧ readInteger? type bytes = some (unsigned.toNat : Int)) ∧
      ((∃ error, encode (.decimal (.ofUInt64 unsigned)) (.scalar type) = .error error) ↔
        ∃ width, type.wordWidth? = some width) := by
  cases size : type.wordWidth? with
  | some width =>
    have refused : encode (.decimal (.ofUInt64 unsigned)) (.scalar type) =
        .error (.incompatible (sort (.decimal (.ofUInt64 unsigned))) type.label) := by
      cases type <;> cases size <;> rfl
    rw [refused]
    exact ⟨nofun, fun _ => ⟨width, rfl⟩, fun _ => ⟨_, rfl⟩⟩
  | none =>
    obtain rfl := eq_numeric_of_integral integral size
    refine ⟨?_, nofun, nofun⟩
    rintro _ ⟨⟩
    exact ⟨_, rfl, readInteger?_decimal (toRat_ofUInt64 unsigned)⟩

/-- A bound word is sent at the type with the name of its own. -/
theorem word_sent_at_own_type (isWord : word? value = some word) :
    ∃ type ∈ PgScalar.integral, PgType.ofName? value.sqlType.name = some (.scalar type) ∧
      ∃ bytes, encode value (.scalar type) = .ok (some bytes) := by
  obtain ⟨width, size, holds⟩ := holds_sqlType isWord
  have element : value.sqlType ≠ .array := by
    intro same
    rw [same] at size
    cases size
  refine ⟨_, integral_of_wordWidth? size, SqlType.pgType_name element, Word.encodeInt width word.toInt, ?_⟩
  rw [encode_of_word? isWord, (integer_word word size).1 holds]
  rfl

/-- An integer of a program arrives as itself or is refused. Whatever is sent at a type of integers or of decimals is
read back as the integer; it is refused exactly at the types of words, where it is out of range or of 64 bits without a
sign; and at the type that it is bound as it is always sent. -/
theorem integer_arrives {host : HostValue} (isInteger : host.integer? = some n) :
    ∃ value, host.classify? = some value ∧
      (∀ type ∈ PgScalar.integral,
        (∀ wire, encode value (.scalar type) = .ok wire → ∃ bytes, wire = some bytes ∧ readInteger? type bytes = some n) ∧
        ((∃ error, encode value (.scalar type) = .error error) ↔
          ∃ width, type.wordWidth? = some width ∧ (¬Word.Holds width n ∨ ∃ unsigned, host = .uint64 unsigned))) ∧
      ∃ type ∈ PgScalar.integral, PgType.ofName? value.sqlType.name = some (.scalar type) ∧
        ∃ bytes, encode value (.scalar type) = .ok (some bytes) := by
  rcases bound_of_integer? isInteger with ⟨value, word, bound, isWord, rfl, signed⟩ | ⟨unsigned, rfl, rfl⟩
  · refine ⟨value, bound, fun type integral => ?_, word_sent_at_own_type isWord⟩
    obtain ⟨readBack, refused⟩ := word_arrives isWord integral
    refine ⟨readBack, refused.trans (exists_congr fun width => and_congr_right fun _ => ?_)⟩
    exact (or_iff_left fun ⟨unsigned, same⟩ => signed unsigned same).symm
  · refine ⟨_, rfl, fun type integral => ?_, .numeric, by decide, @SqlType.pgType_name .numeric (by decide), _, rfl⟩
    obtain ⟨readBack, refused⟩ := unsigned_arrives unsigned integral
    refine ⟨readBack, refused.trans (exists_congr fun width => (and_iff_left ?_).symm)⟩
    exact .inr ⟨unsigned, rfl⟩

/-- The least integer of 32 bits is read back from its four bytes and has no room in two; the greatest of 64 bits without
a sign goes into no word. -/
theorem integer_arrives_at_bounds :
    (HostValue.int32 (-2147483648)).integer? = some (-2147483648) ∧
      (∃ value, (HostValue.int32 (-2147483648)).classify? = some value ∧
        (∃ error, encode value (.scalar .int2) = .error error) ∧
        encode value (.scalar .int4) = .ok (some [128, 0, 0, 0]) ∧
        readInteger? .int4 [128, 0, 0, 0] = some (-2147483648)) ∧
      ∃ value, (HostValue.uint64 18446744073709551615).classify? = some value ∧
        ∃ error, encode value (.scalar .int8) = .error error := by
  have least : (HostValue.int32 (-2147483648)).integer? = some (-2147483648) := rfl
  have greatest : (HostValue.uint64 18446744073709551615).integer? = some 18446744073709551615 := rfl
  obtain ⟨value, bound, arrives, -⟩ := integer_arrives least
  obtain ⟨value', bound', arrives', -⟩ := integer_arrives greatest
  have sent : encode value (.scalar .int4) = .ok (some [128, 0, 0, 0]) := by
    cases bound
    rfl
  refine ⟨least, ⟨value, bound, ?_, sent, ?_⟩, value', bound', ?_⟩
  · refine (arrives .int2 (by decide)).2.mpr ⟨2, rfl, .inl fun holds => ?_⟩
    exact absurd holds.1 (by decide)
  · obtain ⟨bytes, same, readBack⟩ := (arrives .int4 (by decide)).1 _ sent
    cases same
    exact readBack
  · exact (arrives' .int8 (by decide)).2.mpr ⟨8, rfl, .inr ⟨_, rfl⟩⟩

end Wire

end BulkSql
