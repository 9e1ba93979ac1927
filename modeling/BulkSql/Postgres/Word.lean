import BulkSql.Text.Utf8

/-! # Words

Numbers as a fixed number of bytes, the most significant first. A number with a sign is written in two's complement.
-/

namespace BulkSql

namespace Word

/-- The last bytes of a number. -/
def encode : (width n : Nat) → Bytes
  | 0, _ => []
  | width + 1, n => encode width (n / 256) ++ [UInt8.ofNat (n % 256)]

/-- The number that bytes write. -/
def decode (bytes : Bytes) : Nat := bytes.foldl (fun n byte => n * 256 + byte.toNat) 0

@[simp] theorem length_encode (width n : Nat) : (encode width n).length = width := by
  induction width generalizing n with
  | zero => rfl
  | succ width ih => simp [encode, ih]

theorem decode_encode (width n : Nat) : decode (encode width n) = n % Nat.pow 256 width := by
  induction width generalizing n with
  | zero => simp [encode, decode, Nat.mod_one]
  | succ width ih =>
    have last : (UInt8.ofNat (n % 256)).toNat = n % 256 := by simp
    have split : decode (encode width (n / 256) ++ [UInt8.ofNat (n % 256)]) =
        decode (encode width (n / 256)) * 256 + n % 256 := by simp [decode]
    have next : Nat.pow 256 (width + 1) = 256 * Nat.pow 256 width := Nat.mul_comm ..
    rw [encode, split, ih, next, Nat.mod_mul]
    omega

/-- A number with a sign. -/
def encodeInt (width : Nat) (n : Int) : Bytes := encode width (n % (Nat.pow 256 width : Nat)).toNat

@[simp] theorem length_encodeInt (width : Nat) (n : Int) : (encodeInt width n).length = width := length_encode ..

end Word

end BulkSql
