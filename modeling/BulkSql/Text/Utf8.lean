import BulkSql.Text.Basic

/-! # UTF-8

Bytes are cut into characters and into runs that are no character: a run is as long as it could still become one. A
strict reading stops at the first such run, a lenient one puts a replacement character in its place.
-/

namespace BulkSql

abbrev Bytes := List UInt8

/-- What bytes start with. -/
inductive Utf8Unit where
  | char (c : Char)
  /-- bytes that no character starts with -/
  | invalid (length : Nat)
  /-- the start of a character at the end of the bytes -/
  | incomplete
deriving DecidableEq, Repr

namespace Utf8

/-- For a lead byte: how many more bytes it owes, the range of the first of them, and the bits it gives. -/
def lead? (b : Nat) : Option (Nat × Nat × Nat × Nat) :=
  if b ≤ 0x7f then some (0, 0x80, 0xbf, b)
  else if 0xc2 ≤ b ∧ b ≤ 0xdf then some (1, 0x80, 0xbf, b - 0xc0)
  else if b = 0xe0 then some (2, 0xa0, 0xbf, 0)
  else if b = 0xed then some (2, 0x80, 0x9f, 0xd)
  else if 0xe1 ≤ b ∧ b ≤ 0xef then some (2, 0x80, 0xbf, b - 0xe0)
  else if b = 0xf0 then some (3, 0x90, 0xbf, 0)
  else if 0xf1 ≤ b ∧ b ≤ 0xf3 then some (3, 0x80, 0xbf, b - 0xf0)
  else if b = 0xf4 then some (3, 0x80, 0x8f, 4)
  else none

/-- Read the bytes that are owed. The bits and the number of bytes taken so far are carried along. -/
def tails : (owed low high bits taken : Nat) → Bytes → Utf8Unit × Bytes
  | 0, _, _, bits, _, rest => (.char (Char.ofNat bits), rest)
  | _ + 1, _, _, _, _, [] => (.incomplete, [])
  | owed + 1, low, high, bits, taken, b :: rest =>
    if low ≤ b.toNat ∧ b.toNat ≤ high then tails owed 0x80 0xbf (64 * bits + b.toNat % 64) (taken + 1) rest
    else (.invalid taken, b :: rest)

theorem length_tails_le (owed low high bits taken : Nat) (bytes : Bytes) :
    (tails owed low high bits taken bytes).2.length ≤ bytes.length := by
  fun_induction tails owed low high bits taken bytes with
  | case1 | case4 => exact Nat.le_refl _
  | case2 => exact Nat.le_refl _
  | case3 _ _ _ _ _ _ _ _ ih => exact Nat.le_succ_of_le ih

/-- The first unit of bytes that are not empty, and the rest. -/
def first (b : UInt8) (rest : Bytes) : Utf8Unit × Bytes :=
  match lead? b.toNat with
  | some (owed, low, high, bits) => tails owed low high bits 1 rest
  | none => (.invalid 1, rest)

theorem length_first_le (b : UInt8) (rest : Bytes) : (first b rest).2.length ≤ rest.length := by
  unfold first
  split
  · exact length_tails_le ..
  · exact Nat.le_refl _

/-- The units of bytes in order. -/
def units : Bytes → List Utf8Unit
  | [] => []
  | b :: rest => (first b rest).1 :: units (first b rest).2
termination_by bytes => bytes.length
decreasing_by exact Nat.lt_succ_of_le (length_first_le b rest)

/-- Bytes that are no UTF-8. -/
inductive Refusal where
  | invalid (offset length : Nat)
  | incomplete (offset : Nat)
deriving DecidableEq, Repr

def Refusal.message : Refusal → Text
  | invalid offset length =>
    "invalid utf-8 sequence of " ++ Text.ofNat length ++ " bytes from index " ++ Text.ofNat offset
  | incomplete offset => "incomplete utf-8 byte sequence from index " ++ Text.ofNat offset

/-- The characters of units behind some bytes. -/
def strictFrom : (offset : Nat) → List Utf8Unit → Except Refusal Text
  | _, [] => .ok []
  | offset, .char c :: units => (strictFrom (offset + c.utf8Size) units).map (c :: ·)
  | offset, .invalid length :: _ => .error (.invalid offset length)
  | offset, .incomplete :: _ => .error (.incomplete offset)

/-- The text of bytes that are all UTF-8. -/
def decode (bytes : Bytes) : Except Refusal Text := strictFrom 0 (units bytes)

/-- A unit as one character. -/
def lenient : Utf8Unit → Char
  | .char c => c
  | .invalid _ | .incomplete => Char.ofNat 0xfffd

/-- The text of any bytes, with replacement characters. -/
def decodeLenient (bytes : Bytes) : Text := (units bytes).map lenient

def encode (text : Text) : Bytes := text.flatMap String.utf8EncodeChar

end Utf8

end BulkSql
