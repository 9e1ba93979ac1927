import BulkSql.Text.Basic

/-! # Punycode

A label of any characters is written in ASCII: first its ASCII characters and a hyphen, then the others in the order
of their code points. Between two of them a number says how many places are passed, counting all places of the label so
far for each code point. A number is written in digits from a to z and from 0 to 9, the lowest first; which digit ends
it depends on its place and on the numbers before it.
-/

namespace BulkSql

namespace Punycode

/-! ## Digits -/

def base : Nat := 36

/-- The digit of a value below the base. -/
def digit (value : Nat) : Char := Char.ofNat (if value < 26 then 'a'.toNat + value else '0'.toNat + (value - 26))

def value? (c : Char) : Option Nat :=
  if 'a' ≤ c ∧ c ≤ 'z' then some (c.toNat - 'a'.toNat)
  else if 'A' ≤ c ∧ c ≤ 'Z' then some (c.toNat - 'A'.toNat)
  else if '0' ≤ c ∧ c ≤ '9' then some (c.toNat - '0'.toNat + 26)
  else none

/-- A digit below this value ends a number. The position grows by the base with each digit. -/
def threshold (bias position : Nat) : Nat := min 26 (max 1 (position - bias))

theorem one_le_threshold (bias position : Nat) : 1 ≤ threshold bias position := by
  unfold threshold
  omega

/-- The bias that a scaled number leaves. -/
def settle (bias number : Nat) : Nat :=
  if 455 < number then settle (bias + base) (number / 35) else bias + base * number / (number + 38)
termination_by number
decreasing_by exact Nat.div_lt_self (by omega) (by omega)

/-- The bias behind a number in a label of a length. The first number is mostly large. -/
def adapt (number length : Nat) (isFirst : Bool) : Nat :=
  let scaled := if isFirst then number / 700 else number / 2
  settle 0 (scaled + scaled / length)

/-! ## Writing -/

/-- The digits of a number from a position on. -/
def digits (bias position number : Nat) : Text :=
  let low := threshold bias position
  if number < low then [digit number]
  else digit (low + (number - low) % (base - low)) :: digits bias (position + base) ((number - low) / (base - low))
termination_by number
decreasing_by
  have := one_le_threshold bias position
  exact Nat.lt_of_le_of_lt (Nat.div_le_self ..) (by omega)

/-- Where a writer is: the places passed since the last number, the bias, the characters written so far, and the
text of the numbers. -/
structure Writer where
  passed : Nat
  bias : Nat
  written : Nat
  text : Text

/-- Pass a character of the label while the characters of a code point are written. -/
def Writer.pass (asciiCount code : Nat) (writer : Writer) (c : Char) : Writer :=
  if c.toNat < code then { writer with passed := writer.passed + 1 }
  else if c.toNat = code then
    { passed := 0
      bias := adapt writer.passed (writer.written + 1) (writer.written == asciiCount)
      written := writer.written + 1
      text := writer.text ++ digits writer.bias base writer.passed }
  else writer

/-- Write the characters of some code points, in order. All below the next one are written. -/
def writeCodes (label : Text) (asciiCount : Nat) (writer : Writer) (next : Nat) : List Nat → Writer
  | [] => writer
  | code :: codes =>
    let before := { writer with passed := writer.passed + (code - next) * (writer.written + 1) }
    let behind := label.foldl (Writer.pass asciiCount code) before
    writeCodes label asciiCount { behind with passed := behind.passed + 1 } (code + 1) codes

def isAscii (c : Char) : Bool := c.toNat < 0x80

/-- Numbers in order, each once. -/
def insertCode (code : Nat) : List Nat → List Nat
  | [] => [code]
  | first :: codes =>
    if code < first then code :: first :: codes
    else if code = first then first :: codes
    else first :: insertCode code codes

/-- The ASCII form of a label. -/
def encode (label : Text) : Text :=
  let ascii := label.filter isAscii
  let codes := (label.filter (!isAscii ·)).foldl (fun codes c => insertCode c.toNat codes) []
  let writer : Writer := { passed := 0, bias := 72, written := ascii.length, text := [] }
  ascii ++ (if ascii.isEmpty then [] else ['-']) ++ (writeCodes label ascii.length writer 0x80 codes).text

/-! ## Reading -/

/-- Numbers stay below this. -/
def limit : Nat := Nat.pow 2 32

/-- Where a reader is: the label so far, the last code point, the place behind it, and the bias. -/
structure Reader where
  label : Text
  code : Nat
  place : Nat
  bias : Nat

/-- The next character comes as many places later as a number says. -/
def Reader.advance? (reader : Reader) (number : Nat) : Option Reader :=
  let length := reader.label.length + 1
  let target := reader.place + number
  let code := reader.code + target / length
  let place := target % length
  if target < limit ∧ code.isValidChar then
    some {
      label := reader.label.insertIdx place (Char.ofNat code)
      code, place := place + 1
      bias := adapt number length (reader.place == 0) }
  else none

/-- Read digits, in the middle of a number: its value so far, and the weight and the position of the next digit. -/
def readDigits (reader : Reader) (number weight position : Nat) : Text → Option Text
  | [] => if position = base then some reader.label else none
  | c :: rest => do
    let value ← value? c
    let number := number + value * weight
    let low := threshold reader.bias position
    if limit ≤ number then none
    else if value < low then readDigits (← reader.advance? number) 0 1 base rest
    else if limit ≤ weight * (base - low) then none
    else readDigits reader number (weight * (base - low)) (position + base) rest

/-- The label that an ASCII form writes. -/
def decode? (text : Text) : Option Text :=
  let behind := (text.reverse.takeWhile (· != '-')).reverse
  let ascii := text.take (text.length - behind.length - 1)
  -- a hyphen with nothing before it is no digit
  if ascii.isEmpty && behind.length < text.length then none
  else readDigits { label := ascii, code := 0x80, place := 0, bias := 72 } 0 1 base behind

end Punycode

end BulkSql
