import BulkSql.Proofs.Postgres.Decimals

/-! # Lengths on the wire

A text is sent as its bytes, and so are bytes. Everything else is sent in a few bytes, decimals in at most 24, so that
only texts and bytes can be too long for the elements of an array.
-/

namespace BulkSql

namespace Wire

/-- The bytes that a value holds itself, a text in UTF-8. Numbers, dates and times hold none, and the elements of an
array are values of their own. -/
def heldBytes : SqlValue → Nat
  | .string t | .clob t => (Utf8.encode t).length
  | .bytes b | .blob b => b.length
  | _ => 0

theorem length_integer_le {n : Int64} {type : PgScalar} {bytes : Bytes} (written : integer n type = .ok bytes) :
    bytes.length ≤ 24 := by
  have narrowed {width : Nat} (few : width ≤ 24) (written : narrow width n = .ok bytes) : bytes.length ≤ 24 := by
    rw [narrow] at written
    split_ifs at written
    obtain rfl := Except.ok.inj written
    rwa [Word.length_encodeInt]
  cases type with
  | int2 | int4 => exact narrowed (by decide) written
  | int8 =>
    obtain rfl := Except.ok.inj written
    rw [Word.length_encodeInt]
    decide
  | float8 =>
    obtain rfl := Except.ok.inj written
    rw [float, Word.length_encode]
    decide
  | numeric =>
    obtain rfl := Except.ok.inj written
    exact Numeric.length_encode_le _
  | _ => cases written

/-- A value is sent as the bytes that it holds, or as a few. -/
theorem length_of_encodeScalar {value : SqlValue} {type : PgScalar} {bytes : Bytes}
    (encoded : encodeScalar value type = .ok (some bytes)) :
    bytes.length = heldBytes value ∨ heldBytes value = 0 ∧ bytes.length ≤ 24 := by
  have few {own : Bytes} (short : own.length ≤ 24) (sent : some own = some bytes) : bytes.length ≤ 24 := by
    rwa [← Option.some.inj sent]
  have ofInteger {n : Int64} (encoded : (integer n type).map some = .ok (some bytes)) : bytes.length ≤ 24 := by
    cases written : integer n type with
    | error => rw [written] at encoded; cases encoded
    | ok own =>
      rw [written] at encoded
      exact few (length_integer_le written) (Except.ok.inj encoded)
  have ofText {t : Text} {error : EncodeError}
      (encoded : (if holdsText type then .ok (some (Utf8.encode t)) else .error error) = Except.ok (some bytes)) :
      bytes.length = (Utf8.encode t).length := by
    split_ifs at encoded
    rw [Option.some.inj (Except.ok.inj encoded)]
  cases value with
  | null => cases encoded
  | array => cases type <;> cases encoded
  | byte | short | int | long => exact .inr ⟨rfl, ofInteger encoded⟩
  | string | clob => exact .inl (ofText (by rwa [encodeScalar] at encoded))
  | bytes | blob =>
    cases type with
    | bytea => exact .inl (congrArg List.length (Option.some.inj (Except.ok.inj encoded))).symm
    | _ => cases encoded
  | decimal d =>
    cases type with
    | numeric => exact .inr ⟨rfl, few (Numeric.length_encode_le d) (Except.ok.inj encoded)⟩
    | _ => cases encoded
  | float | double =>
    cases type with
    | float4 => exact .inr ⟨rfl, few (by simp [float32]) (Except.ok.inj encoded)⟩
    | float8 => exact .inr ⟨rfl, few (by simp [float]) (Except.ok.inj encoded)⟩
    | _ => cases encoded
  | bool | date | time | timestamp | timestamptz | uuid =>
    cases type <;>
      first
      | exact .inr ⟨rfl, few (by simp [day, moment]) (Except.ok.inj encoded)⟩
      | cases encoded

/-- There is room for the length of what is sent exactly if there is for the length of what the value holds. -/
theorem fits_iff {value : SqlValue} {type : PgScalar} {wire : WireValue} (encoded : encodeScalar value type = .ok wire)
    (sent : wire = none ↔ value.isNull) : Fits wire ↔ heldBytes value < Nat.pow 2 31 := by
  cases wire with
  | none =>
    cases value with
    | null => exact iff_of_true (by simp [Fits]) (show 0 < Nat.pow 2 31 by decide)
    | _ => exact absurd (sent.mp rfl) Bool.false_ne_true
  | some bytes =>
    have same : Fits (some bytes) ↔ bytes.length < Nat.pow 2 31 := by simp [Fits]
    rw [same]
    rcases length_of_encodeScalar encoded with held | ⟨none_, few⟩
    · rw [held]
    · exact iff_of_true (Nat.lt_of_le_of_lt few (by decide)) (by rw [none_]; decide)

/-- All values have room for their lengths in an array exactly if none holds too many bytes. -/
theorem forall_fits_iff {type : PgScalar} {values : List SqlValue} {sent : List WireValue}
    (encoded : List.Forall₂ (fun value wire => encodeScalar value type = .ok wire ∧ (wire = none ↔ value.isNull))
      values sent) : (∀ wire ∈ sent, Fits wire) ↔ ∀ value ∈ values, heldBytes value < Nat.pow 2 31 := by
  induction encoded with
  | nil => simp
  | cons first _ ih => rw [List.forall_mem_cons, List.forall_mem_cons, ih, fits_iff first.1 first.2]

end Wire

end BulkSql
