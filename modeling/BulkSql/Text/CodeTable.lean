import BulkSql.Text.Numeral

/-! # Tables of code points

A table says of runs of code points what they carry. It is written in words: a code point, or the first and the last
of a run with a hyphen between them, and behind a colon the code points that the run carries, with points between
them. All numbers are hexadecimal.
-/

namespace BulkSql

/-- A run of code points and what it carries. -/
structure CodeRun where
  first : Nat
  last : Nat
  carried : List Nat
deriving DecidableEq, Repr

namespace CodeRun

/-- The run that a word writes. A number that cannot be read counts as zero. -/
def ofWord (word : Text) : CodeRun :=
  let (ends, carried?) := Text.cutAt ':' word
  let (first, last?) := Text.cutAt '-' ends
  let number (digits : Text) : Nat := (Text.hexNumber? digits).getD 0
  { first := number first
    last := number (last?.getD first)
    carried := match carried? with
      | some carried => (Text.split '.' carried).map number
      | none => [] }

def holds (run : CodeRun) (c : Char) : Bool := run.first ≤ c.toNat && c.toNat ≤ run.last

end CodeRun

/-- Runs of code points in order. -/
abbrev CodeTable := List CodeRun

namespace CodeTable

/-- The table that lines of words write. -/
def ofLines (lines : List String) : CodeTable :=
  lines.flatMap fun line => (Text.split ' ' line.toList).map CodeRun.ofWord

/-- The run that holds a character. -/
def run? (table : CodeTable) (c : Char) : Option CodeRun := table.find? (·.holds c)

def contains (table : CodeTable) (c : Char) : Bool := table.any (·.holds c)

end CodeTable

end BulkSql
