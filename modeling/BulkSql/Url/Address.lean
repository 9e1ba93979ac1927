import BulkSql.Text.Percent

/-! # Internet addresses

An IPv6 address has eight groups of up to four hexadecimal digits; one run of zero groups may be left out, and the
last two groups may be written as an IPv4 address. It is written with the first of the longest runs of two or more
zero groups left out. An IPv4 address has up to four parts, the last of which fills the places that are left; parts
may be octal or hexadecimal.
-/

namespace BulkSql

namespace Address

/-! ## IPv6 -/

/-- One group of an IPv6 address. -/
def group? (digits : Text) : Option Nat :=
  if digits.isEmpty || 4 < digits.length then none else Text.hexNumber? digits

/-- A decimal byte without zeros in front. -/
def byte? (digits : Text) : Option Nat := do
  let n ← Text.number? digits
  if n < 256 && (digits.length = 1 || digits.head? != some '0') then some n else none

/-- Two groups written as four bytes. -/
def dottedGroups? (text : Text) : Option (List Nat) := do
  match ← (Text.split '.' text).mapM byte? with
  | [a, b, c, d] => some [256 * a + b, 256 * c + d]
  | _ => none

/-- The groups between colons, the last of which may be written as four bytes. -/
def groupsOf? : List Text → Option (List Nat)
  | [] => some []
  | [last] => if '.' ∈ last then dottedGroups? last else (group? last).map fun n => [n]
  | first :: more => do
    let n ← group? first
    let ns ← groupsOf? more
    pure (n :: ns)

/-- The groups of a part of an address. No text has none. -/
def groups? (text : Text) : Option (List Nat) := if text.isEmpty then some [] else groupsOf? (Text.split ':' text)

/-- A text split at the first pair of colons. -/
def splitGap? : Text → Option (Text × Text)
  | ':' :: ':' :: rest => some ([], rest)
  | c :: rest => (splitGap? rest).map fun (left, right) => (c :: left, right)
  | [] => none

/-- The eight groups of an IPv6 address. -/
def ipv6? (text : Text) : Option (List Nat) := do
  match splitGap? text with
  | none =>
    let groups ← groups? text
    if groups.length = 8 then some groups else none
  | some (left, right) =>
    -- a part with four bytes ends the address
    if '.' ∈ left then none
    else
      let before ← groups? left
      let after ← groups? right
      let missing := 8 - (before.length + after.length)
      if missing = 0 then none else some (before ++ List.replicate missing 0 ++ after)

/-- How many zero groups a list starts with. -/
def zeroRun (groups : List Nat) : Nat := (groups.takeWhile (· == 0)).length

/-- Start and length of the first of the longest runs of zero groups. -/
def longestRun (groups : List Nat) : Nat × Nat :=
  (List.range groups.length).foldl
    (fun best i => let run := zeroRun (groups.drop i); if best.2 < run then (i, run) else best) (0, 0)

def hexGroups (groups : List Nat) : Text := Text.join [':'] (groups.map (Text.hex 1))

def ipv6Text (groups : List Nat) : Text :=
  let (start, length) := longestRun groups
  if length < 2 then hexGroups groups
  else hexGroups (groups.take start) ++ [':', ':'] ++ hexGroups (groups.drop (start + length))

/-! ## IPv4 -/

/-- The number that digits of a base write. -/
def inBase? (base : Nat) (digits : Text) : Option Nat :=
  digits.foldlM (fun n c => do
    let d ← Text.hexValue? c
    if d < base then some (base * n + d) else none) 0

/-- A part of an IPv4 address: hexadecimal behind 0x, octal behind another zero in front, else decimal. -/
def part? : Text → Option Nat
  | [] => none
  | '0' :: 'x' :: digits | '0' :: 'X' :: digits => inBase? 16 digits
  | ['0'] => some 0
  | '0' :: digits => inBase? 8 digits
  | digits => inBase? 10 digits

/-- The parts between points. One point at the end is left out. -/
def parts (text : Text) : List Text :=
  let all := Text.split '.' text
  if 1 < all.length && all.getLast? == some [] then all.dropLast else all

/-- A host whose last part is a number must be an IPv4 address. -/
def endsInNumber (text : Text) : Bool :=
  match (parts text).getLast? with
  | some last => (!last.isEmpty && last.all Char.isDigit) || (part? last).isSome
  | none => false

/-- The number of an IPv4 address. -/
def ipv4? (text : Text) : Option Nat := do
  let numbers ← (parts text).mapM part?
  if numbers.isEmpty || 4 < numbers.length then none
  else
    let leading := numbers.dropLast
    let last := numbers.getLast?.getD 0
    if leading.all (· < 256) && last < Nat.pow 256 (5 - numbers.length) then
      some (leading.zipIdx.foldl (fun n (part, i) => n + part * Nat.pow 256 (3 - i)) last)
    else none

def ipv4Text (address : Nat) : Text :=
  Text.join ['.'] ([3, 2, 1, 0].map fun i => Text.ofNat (address / Nat.pow 256 i % 256))

end Address

end BulkSql
