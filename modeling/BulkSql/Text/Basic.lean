/-! # Text

A statement is handled as the list of its characters, so that what a reader leaves over is a suffix of what it was
given. Places are reported in three ways: as a byte offset into the UTF-8 form, as a line, and as a column that
counts characters.
-/

namespace BulkSql

/-- The characters of a text in order. -/
abbrev Text := List Char

instance : Coe String Text := ⟨String.toList⟩

namespace Text

/-- Bytes of the UTF-8 form. -/
def byteSize : Text → Nat
  | [] => 0
  | c :: text => c.utf8Size + byteSize text

@[simp] theorem byteSize_nil : byteSize [] = 0 := rfl

@[simp] theorem byteSize_cons (c : Char) (text : Text) : byteSize (c :: text) = c.utf8Size + byteSize text := rfl

@[simp] theorem byteSize_append (left right : Text) : byteSize (left ++ right) = byteSize left + byteSize right := by
  induction left with
  | nil => simp
  | cons c left ih => simp [ih, Nat.add_assoc]

/-- The byte offset at which a suffix of a text starts. -/
def offsetOf (whole rest : Text) : Nat := byteSize whole - byteSize rest

theorem offsetOf_append (before rest : Text) : offsetOf (before ++ rest) rest = byteSize before := by
  simp [offsetOf]

/-- The text from a byte offset on. There is none past the end or inside a character. -/
def fromOffset? : Text → Nat → Option Text
  | text, 0 => some text
  | [], _ + 1 => none
  | c :: text, offset@(_ + 1) => if c.utf8Size ≤ offset then fromOffset? text (offset - c.utf8Size) else none

/-- The characters that lie wholly before a byte offset. -/
def uptoOffset : Text → Nat → Text
  | [], _ => []
  | c :: text, offset => if c.utf8Size ≤ offset then c :: uptoOffset text (offset - c.utf8Size) else []

/-- Lines are counted from one and end at a line feed. -/
def lineAfter (before : Text) : Nat := before.count '\n' + 1

/-- Columns are counted from one, in characters, from the last line feed on. -/
def columnAfter (before : Text) : Nat := (before.reverse.takeWhile (· != '\n')).length + 1

/-- The decimal digits of a number. -/
def ofNat (n : Nat) : Text := Nat.toDigits 10 n

/-- What follows a text at the start of another. -/
def after? : (lead text : Text) → Option Text
  | [], text => some text
  | _ :: _, [] => none
  | l :: lead, c :: text => if l = c then after? lead text else none

theorem after?_eq_some_iff {lead text rest : Text} : after? lead text = some rest ↔ text = lead ++ rest := by
  induction lead generalizing text with
  | nil => simp [after?]
  | cons l lead ih =>
    cases text with
    | nil => simp [after?]
    | cons c text =>
      by_cases same : l = c
      · simp [after?, same, ih]
      · simp [after?, same, Ne.symm same]

/-- The parts of a text between separators. -/
def split (separator : Char) : Text → List Text
  | [] => [[]]
  | c :: rest =>
    if c = separator then [] :: split separator rest
    else
      match split separator rest with
      | part :: parts => (c :: part) :: parts
      | [] => [[c]]

/-- The text before the first of a character and the text behind it, if it occurs. -/
def cutAt (mark : Char) (text : Text) : Text × Option Text :=
  match text.dropWhile (· != mark) with
  | [] => (text, none)
  | _ :: rest => (text.takeWhile (· != mark), some rest)

/-- The parts in order, with a separator between neighbours. -/
def join (separator : Text) (parts : List Text) : Text := separator.intercalate parts

theorem split_ne_nil (separator : Char) (text : Text) : split separator text ≠ [] := by
  cases text with
  | nil => simp [split]
  | cons c rest =>
    unfold split
    split
    · simp
    · split <;> simp

theorem not_mem_of_mem_split {separator : Char} {text part : Text} (member : part ∈ split separator text) :
    separator ∉ part := by
  induction text generalizing part with
  | nil => simp_all [split]
  | cons c rest ih =>
    unfold split at member
    cases parts : split separator rest with
    | nil => exact absurd parts (split_ne_nil separator rest)
    | cons first more =>
      rw [parts] at member ih
      by_cases same : c = separator
      · simp only [same, if_true, List.mem_cons] at member
        rcases member with rfl | member
        · simp
        · exact ih (List.mem_cons.mpr member)
      · simp only [same, if_false, List.mem_cons] at member
        rcases member with rfl | member
        · exact List.not_mem_cons_of_ne_of_not_mem (Ne.symm same) (ih (List.mem_cons_self ..))
        · exact ih (List.mem_cons_of_mem _ member)

/-- The parts with a comma and a space between neighbours. -/
def commaList (parts : List Text) : Text := join ", " parts

/-- ASCII letters of a text in upper case; all else is kept. -/
def upperCase (text : Text) : Text := text.map Char.toUpper

/-- ASCII letters of a text in lower case; all else is kept. -/
def lowerCase (text : Text) : Text := text.map Char.toLower

end Text

end BulkSql
