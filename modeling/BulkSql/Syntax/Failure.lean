import BulkSql.Text.Basic

/-! # Failures of readers

A reader that does not succeed says at which suffix of the text it gave up and what it wanted there. Alternatives
keep the failures of all their branches, so one text gives a tree of failures. A report keeps those that lie
furthest into the text and lists what would have let the reading go on.
-/

namespace BulkSql

/-- What a reader wanted to see. -/
inductive Expectation where
  /-- this very text -/
  | exactly (text : Text)
  /-- a letter, or a word that is not reserved -/
  | identifier
  | number
  | endOfInput
  /-- something that has no name in a report -/
  | unnamed
  /-- the end of a keyword that runs into an identifier character -/
  | wordEnd
deriving DecidableEq, Repr

/-- The name under which a wish is listed in a report. -/
def Expectation.description? : Expectation → Option Text
  | exactly text => some text
  | identifier => some "identifier"
  | number => some "number"
  | endOfInput => some "end of input"
  | unnamed | wordEnd => none

inductive Failure where
  | leaf (rest : Text) (wanted : Expectation)
  /-- a failure seen while reading something larger -/
  | within (what : Text) (inner : Failure)
  /-- the failures of all branches that were tried, in their order -/
  | alternatives (branches : List Failure)
deriving Repr

namespace Failure

mutual

/-- The single wishes of a tree, from left to right. -/
def leaves : Failure → List (Text × Expectation)
  | leaf rest wanted => [(rest, wanted)]
  | within _ inner => inner.leaves
  | alternatives branches => leavesOfAll branches

def leavesOfAll : List Failure → List (Text × Expectation)
  | [] => []
  | branch :: branches => branch.leaves ++ leavesOfAll branches

end

/-- The furthest place seen so far, with what was wanted there. -/
structure Furthest where
  position : Nat := 0
  expected : List Text := []
deriving DecidableEq, Repr

/-- A wish further on forgets the ones before it; one at the same place is added once. A keyword that runs into an
identifier character counts for nothing: it is reported at the start of the word, by the branches that tried it. -/
def Furthest.see (furthest : Furthest) (position : Nat) (wanted : Expectation) : Furthest :=
  if wanted = .wordEnd then furthest
  else
    let reached := if furthest.position < position then { position, expected := [] } else furthest
    if position = reached.position then
      match wanted.description? with
      | some description =>
        if description ∈ reached.expected then reached
        else { reached with expected := reached.expected ++ [description] }
      | none => reached
    else reached

/-- The furthest place of a tree of failures over a text. -/
def furthest (whole : Text) (failure : Failure) : Furthest :=
  failure.leaves.foldl (fun seen (rest, wanted) => seen.see (Text.offsetOf whole rest) wanted) {}

end Failure

end BulkSql
