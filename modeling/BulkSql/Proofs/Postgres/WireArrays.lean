import BulkSql.Postgres.Parameter
import Mathlib.Data.List.Forall2

/-! # Arrays on the wire

An array of one dimension is read back from its binary form: a reader that knows nothing of the values gives the bytes
of every element again, and nulls as nulls. The length in front of an element is a word with a sign, so this is so
for elements of fewer than `2 ^ 31` bytes; an array with a longer one is refused.
-/

namespace BulkSql

namespace Wire

/-! ## Reading -/

/-- A word at the start of bytes, and the bytes behind it. -/
def readWord? (width : Nat) (bytes : Bytes) : Option (Nat × Bytes) :=
  if width ≤ bytes.length then some (Word.decode (bytes.take width), bytes.drop width) else none

/-- An element behind its length. A length of minus one, in two's complement, stands for a null; no other length has a
sign. -/
def readElement? (bytes : Bytes) : Option (WireValue × Bytes) := do
  let (length, rest) ← readWord? 4 bytes
  if length = Nat.pow 2 32 - 1 then some (none, rest)
  else if length < Nat.pow 2 31 ∧ length ≤ rest.length then some (some (rest.take length), rest.drop length)
  else none

/-- A number of elements that take up all of the bytes. -/
def readElements? : (count : Nat) → Bytes → Option (List WireValue)
  | 0, bytes => if bytes.isEmpty then some [] else none
  | count + 1, bytes => do
    let (element, rest) ← readElement? bytes
    let elements ← readElements? count rest
    pure (element :: elements)

/-- What an array says of itself, and its elements. -/
structure WireArray where
  hasNulls : Bool
  /-- the number of the type of its elements -/
  element : Nat
  lowerBound : Nat
  elements : List WireValue
deriving DecidableEq, Repr

/-- An array of at most one dimension. One without dimensions is empty. -/
def readArray? (bytes : Bytes) : Option WireArray := do
  let (dimensions, rest) ← readWord? 4 bytes
  let (nulls, rest) ← readWord? 4 rest
  let (element, rest) ← readWord? 4 rest
  match dimensions with
  | 0 => if rest.isEmpty then some { hasNulls := nulls == 1, element, lowerBound := 1, elements := [] } else none
  | 1 =>
    let (count, rest) ← readWord? 4 rest
    let (lowerBound, rest) ← readWord? 4 rest
    let elements ← readElements? count rest
    pure { hasNulls := nulls == 1, element, lowerBound, elements }
  | _ => none

/-! ## Reading what was written -/

theorem readWord?_encode {width n : Nat} (small : n < Nat.pow 256 width) (rest : Bytes) :
    readWord? width (Word.encode width n ++ rest) = some (n, rest) := by
  have size := Word.length_encode width n
  rw [readWord?, if_pos (by rw [List.length_append, size]; omega), List.take_left' size, List.drop_left' size,
    Word.decode_encode, Nat.mod_eq_of_lt small]

/-- There is room for the length of a sent value in front of it. -/
def Fits (sent : WireValue) : Prop := ∀ bytes, sent = some bytes → bytes.length < Nat.pow 2 31

theorem readElement?_frame {sent : WireValue} (fits : Fits sent) (rest : Bytes) :
    readElement? (frame sent ++ rest) = some (sent, rest) := by
  cases sent with
  | none =>
    have minusOne : frame none = Word.encode 4 (Nat.pow 2 32 - 1) := rfl
    rw [minusOne, readElement?, readWord?_encode (by decide)]
    rfl
  | some bytes =>
    have short : bytes.length < 2147483648 := fits bytes rfl
    have small : bytes.length < Nat.pow 256 4 := Nat.lt_trans short (by decide)
    rw [frame, List.append_assoc, readElement?, readWord?_encode small, Option.bind_eq_bind, Option.bind_some]
    dsimp only
    rw [if_neg (by change ¬ bytes.length = 4294967295; omega), if_pos ⟨short, by simp⟩, List.take_left, List.drop_left]

theorem readElements?_frames {sent : List WireValue} (fits : ∀ value ∈ sent, Fits value) :
    readElements? sent.length (sent.flatMap frame) = some sent := by
  induction sent with
  | nil => rfl
  | cons value sent ih =>
    rw [List.length_cons, List.flatMap_cons, readElements?, readElement?_frame (fits value (List.mem_cons_self ..)),
      Option.bind_eq_bind, Option.bind_some]
    dsimp only
    rw [ih fun other member => fits other (List.mem_cons_of_mem _ member)]
    rfl

theorem readArray?_arrayBytes (form : ArrayForm) {element : PgScalar} {sent : List WireValue}
    (known : element.oid < Nat.pow 2 32) (few : sent.length < Nat.pow 2 31) (fits : ∀ value ∈ sent, Fits value) :
    readArray? (arrayBytes form element sent) = some {
      hasNulls := sent.any (·.isNone), element := element.oid, lowerBound := form.lowerBound, elements := sent } := by
  have count : sent.length < Nat.pow 256 4 := Nat.lt_trans few (by decide)
  have bound : form.lowerBound < Nat.pow 256 4 := by cases form <;> decide
  simp only [arrayBytes, List.append_assoc, readArray?, Option.bind_eq_bind]
  rw [readWord?_encode (by decide), Option.bind_some]
  dsimp only
  rw [readWord?_encode (by split <;> decide), Option.bind_some]
  dsimp only
  rw [readWord?_encode known, Option.bind_some]
  dsimp only
  rw [readWord?_encode count, Option.bind_some]
  dsimp only
  rw [readWord?_encode bound, Option.bind_some]
  dsimp only
  rw [readElements?_frames fits, Option.bind_some]
  cases sent.any (·.isNone) <;> rfl

/-! ## Writing -/

section

variable {type : PgScalar} {values : List SqlValue} {sent : List WireValue}

theorem encodeElement_of_fits {value : SqlValue} {wire : WireValue} (encoded : encodeScalar value type = .ok wire)
    (fits : Fits wire) : encodeElement value type = .ok wire := by
  cases wire with
  | none => simp only [encodeElement, encoded]; rfl
  | some bytes =>
    have short : ¬ Nat.pow 2 31 ≤ bytes.length := Nat.not_le_of_lt (fits bytes rfl)
    simp only [encodeElement, encoded, Except.bind, bind, if_neg short]
    rfl

theorem encodeElement_of_not_fits {value : SqlValue} {wire : WireValue} (encoded : encodeScalar value type = .ok wire)
    (long : ¬ Fits wire) : encodeElement value type = .error .tooLong := by
  cases wire with
  | none => exact absurd (fun _ none_ => nomatch none_) long
  | some bytes =>
    have room : Nat.pow 2 31 ≤ bytes.length := by
      by_contra short
      exact long fun other same => Option.some.inj same ▸ Nat.lt_of_not_le short
    simp only [encodeElement, encoded, Except.bind, bind, if_pos room]

theorem mapM_encodeElement_of_fits
    (encoded : List.Forall₂ (fun value wire => encodeScalar value type = .ok wire) values sent)
    (fits : ∀ wire ∈ sent, Fits wire) : (values.mapM fun value => encodeElement value type) = .ok sent := by
  induction encoded with
  | nil => rfl
  | cons first _ ih =>
    rw [List.mapM_cons, encodeElement_of_fits first (fits _ (List.mem_cons_self ..)),
      ih fun other member => fits other (List.mem_cons_of_mem _ member)]
    rfl

/-- One element without room for its length and the array is refused. -/
theorem mapM_encodeElement_of_not_fits
    (encoded : List.Forall₂ (fun value wire => encodeScalar value type = .ok wire) values sent)
    (long : ∃ wire ∈ sent, ¬ Fits wire) : (values.mapM fun value => encodeElement value type) = .error .tooLong := by
  induction encoded with
  | nil => simp at long
  | @cons value wire values sent first _ ih =>
    rw [List.mapM_cons]
    by_cases fits : Fits wire
    · have later : ∃ other ∈ sent, ¬ Fits other := by
        obtain ⟨other, member, misfit⟩ := long
        rcases List.mem_cons.mp member with rfl | behind
        · exact absurd fits misfit
        · exact ⟨other, behind, misfit⟩
      rw [encodeElement_of_fits first fits, ih later]
      rfl
    · rw [encodeElement_of_not_fits first fits]
      rfl

variable (element : SqlType) (form : ArrayForm) (few : values.length < Nat.pow 2 31)
  (encoded : List.Forall₂ (fun value wire => encodeScalar value type = .ok wire) values sent)

include few encoded

/-- Elements that can be sent one by one can be sent as an array. -/
theorem encode_array_of_fits (fits : ∀ wire ∈ sent, Fits wire) :
    encode (.array element values) (.array form type) = .ok (some (arrayBytes form type sent)) := by
  rw [encode, if_neg (Nat.not_le_of_lt few), mapM_encodeElement_of_fits encoded fits]
  rfl

theorem encode_array_of_not_fits (long : ∃ wire ∈ sent, ¬ Fits wire) :
    encode (.array element values) (.array form type) = .error .tooLong := by
  rw [encode, if_neg (Nat.not_le_of_lt few), mapM_encodeElement_of_not_fits encoded long]
  rfl

end

end Wire

end BulkSql
