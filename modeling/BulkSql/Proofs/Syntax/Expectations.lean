import Mathlib
import BulkSql.Proofs.Syntax.Furthest
import BulkSql.Syntax.ParseError

/-! # What could have stood there

A report lists what was wanted at its place: each wish once, in the order in which it was first met. The order in which
alternatives were tried has no other part in a report.
-/

namespace BulkSql

namespace Failure

/-- What leaves wanted that count and lie at a place of a text, as far as it has a name. -/
def wishesAt (whole : Text) (place : Nat) (leaves : List (Text × Expectation)) : List Text :=
  (leaves.filter fun leaf => leaf.2 ≠ .wordEnd ∧ Text.offsetOf whole leaf.1 = place).filterMap (·.2.description?)

section OneLeaf

variable {whole rest : Text} {place : Nat} {wanted : Expectation} {leaves : List (Text × Expectation)}

theorem wishesAt_concat_of_not (apart : ¬(wanted ≠ .wordEnd ∧ Text.offsetOf whole rest = place)) :
    wishesAt whole place (leaves ++ [(rest, wanted)]) = wishesAt whole place leaves := by
  rw [wishesAt, List.filter_append, List.filter_cons_of_neg (by simpa using apart), List.filter_nil, List.append_nil]
  rfl

theorem wishesAt_concat (here : wanted ≠ .wordEnd ∧ Text.offsetOf whole rest = place) :
    wishesAt whole place (leaves ++ [(rest, wanted)]) = wishesAt whole place leaves ++ wanted.description?.toList := by
  rw [wishesAt, List.filter_append, List.filter_cons_of_pos (by simpa using here), List.filter_nil,
    List.filterMap_append, wishesAt]
  cases named : wanted.description? <;> simp [named]

end OneLeaf

namespace Furthest

/-! ## One more wish -/

section OneWish

variable {seen : Furthest} {position : Nat} {wanted : Expectation}

/-- A wish further on is the only one. -/
theorem see_of_lt (counted : wanted ≠ .wordEnd) (further : seen.position < position) :
    seen.see position wanted = { position, expected := wanted.description?.toList } := by
  rw [see, if_neg counted, if_pos further]
  dsimp only
  rw [if_pos rfl]
  cases wanted.description? <;> rfl

/-- A wish at the same place is added, if it was not met before. -/
theorem see_of_eq (counted : wanted ≠ .wordEnd) (same : seen.position = position) :
    seen.see position wanted =
      { seen with expected := seen.expected ++ wanted.description?.toList.removeAll seen.expected } := by
  rw [see, if_neg counted, if_neg (Nat.not_lt_of_ge (Nat.le_of_eq same.symm))]
  dsimp only
  rw [if_pos same.symm]
  cases wanted.description? with
  | none =>
    change seen = { seen with expected := seen.expected ++ [] }
    rw [List.append_nil]
  | some description => by_cases met : description ∈ seen.expected <;> simp [met, List.removeAll]

/-- A wish further back changes nothing. -/
theorem see_of_gt (counted : wanted ≠ .wordEnd) (back : position < seen.position) :
    seen.see position wanted = seen := by
  rw [see, if_neg counted, if_neg (Nat.not_lt_of_gt back)]
  exact if_neg (Nat.ne_of_lt back)

end OneWish

/-! ## All wishes -/

/-- What is known after leaves in their order: none that counts lies further on than the furthest place, and what was
wanted there was met, each wish once. -/
structure Sums (whole : Text) (leaves : List (Text × Expectation)) (seen : Furthest) : Prop where
  bounds : ∀ leaf ∈ leaves, leaf.2 ≠ .wordEnd → Text.offsetOf whole leaf.1 ≤ seen.position
  expected : seen.expected = (wishesAt whole seen.position leaves).eraseDups

variable {whole : Text} {leaves : List (Text × Expectation)} {seen : Furthest}

theorem sums_nil (whole : Text) : Sums whole [] {} where
  bounds := List.forall_mem_nil _
  expected := rfl

theorem Sums.wishesAt_of_lt (sums : Sums whole leaves seen) {place : Nat} (further : seen.position < place) :
    wishesAt whole place leaves = [] := by
  have none_ : leaves.filter (fun leaf => leaf.2 ≠ .wordEnd ∧ Text.offsetOf whole leaf.1 = place) = [] := by
    apply List.filter_eq_nil_iff.mpr
    intro leaf member here
    obtain ⟨counted, same⟩ := of_decide_eq_true here
    have bound := sums.bounds leaf member counted
    omega
  rw [wishesAt, none_]
  rfl

/-- One more wish after others, of which each was met once. -/
theorem eraseDups_append_toList (wishes : List Text) (wish? : Option Text) :
    (wishes ++ wish?.toList).eraseDups = wishes.eraseDups ++ wish?.toList.removeAll wishes.eraseDups := by
  rw [List.eraseDups_append]
  cases wish? with
  | none => rfl
  | some wish => by_cases met : wish ∈ wishes <;> simp [met, List.removeAll, List.eraseDups_cons]

theorem Sums.see (sums : Sums whole leaves seen) (rest : Text) (wanted : Expectation) :
    Sums whole (leaves ++ [(rest, wanted)]) (seen.see (Text.offsetOf whole rest) wanted) := by
  by_cases counted : wanted = .wordEnd
  · subst counted
    rw [see_wordEnd]
    constructor
    · intro leaf member counts
      rcases List.mem_append.mp member with before | last
      · exact sums.bounds leaf before counts
      · rw [List.mem_singleton.mp last] at counts
        exact absurd rfl counts
    · rw [wishesAt_concat_of_not fun here => here.1 rfl]
      exact sums.expected
  · constructor
    · intro leaf member counts
      rw [position_see _ _ counted]
      rcases List.mem_append.mp member with before | last
      · exact le_max_of_le_left (sums.bounds leaf before counts)
      · rw [List.mem_singleton.mp last]
        exact le_max_right ..
    · rcases Nat.lt_trichotomy seen.position (Text.offsetOf whole rest) with further | same | back
      · rw [see_of_lt counted further, wishesAt_concat ⟨counted, rfl⟩, sums.wishesAt_of_lt further,
          eraseDups_append_toList]
        cases wanted.description? <;> rfl
      · rw [see_of_eq counted same, wishesAt_concat ⟨counted, same.symm⟩, eraseDups_append_toList, ← sums.expected]
      · rw [see_of_gt counted back, wishesAt_concat_of_not fun here => Nat.ne_of_lt back here.2]
        exact sums.expected

end Furthest

theorem sums_furthest (whole : Text) (failure : Failure) :
    Furthest.Sums whole failure.leaves (failure.furthest whole) := by
  rw [furthest]
  induction failure.leaves using List.reverseRecOn with
  | nil => exact Furthest.sums_nil whole
  | append_singleton leaves leaf ih =>
    rw [List.foldl_append]
    exact ih.see leaf.1 leaf.2

/-! ## Other orders -/

/-- Trees that have the same alternatives at each node, in whatever order. -/
inductive Reordered : Failure → Failure → Prop
  | refl (failure : Failure) : Reordered failure failure
  | within (what : Text) {inner other : Failure} : Reordered inner other →
    Reordered (within what inner) (within what other)
  | permuted {branches others : List Failure} : branches.Perm others →
    Reordered (alternatives branches) (alternatives others)
  | branch (front : List Failure) {inner other : Failure} (back : List Failure) : Reordered inner other →
    Reordered (alternatives (front ++ inner :: back)) (alternatives (front ++ other :: back))
  | trans {first second third : Failure} : Reordered first second → Reordered second third → Reordered first third

theorem Reordered.leaves_perm {failure other : Failure} (same : Reordered failure other) :
    failure.leaves.Perm other.leaves := by
  induction same with
  | refl failure => exact .refl _
  | within what _ ih => exact ih
  | permuted perm =>
    rw [leaves_alternatives, leaves_alternatives]
    exact perm.flatMap_right _
  | branch front back _ ih =>
    simp only [leaves_alternatives, List.flatMap_append, List.flatMap_cons]
    exact (ih.append_right _).append_left _
  | trans _ _ first second => exact first.trans second

theorem Reordered.position_eq {failure other : Failure} (same : Reordered failure other) (whole : Text) :
    (other.furthest whole).position = (failure.furthest whole).position := by
  have places : (other.places whole).Perm (failure.places whole) := ((same.leaves_perm.symm.filter _).map _)
  calc (other.furthest whole).position
      = (other.places whole).foldl max 0 := by rw [position_furthest, List.foldl_max, Nat.zero_max]
    _ = (failure.places whole).foldl max 0 := places.foldl_eq 0
    _ = _ := by rw [position_furthest, List.foldl_max, Nat.zero_max]

theorem Reordered.wishesAt_perm {failure other : Failure} (same : Reordered failure other) (whole : Text)
    (place : Nat) : (wishesAt whole place other.leaves).Perm (wishesAt whole place failure.leaves) :=
  (same.leaves_perm.symm.filter _).filterMap _

end Failure

namespace ParseError

open Failure

/-- A failure is reported at the furthest place of its leaves that count, or at the start if none does. What is expected
there are the wishes of exactly those of its leaves that lie there, each once and in the order in which they were first
met. With the alternatives in another order the place is the same, and so is what is expected, but for its order. -/
theorem ofFailure_furthest (whole : Text) (failure : Failure) :
    let error := ofFailure whole failure
    error.position = (failure.places whole).max?.getD 0 ∧
    error.expected = (wishesAt whole error.position failure.leaves).eraseDups ∧
    ∀ other, failure.Reordered other → (ofFailure whole other).position = error.position ∧
      ∀ wish, wish ∈ (ofFailure whole other).expected ↔ wish ∈ error.expected := by
  intro error
  refine ⟨position_furthest whole failure, (sums_furthest whole failure).expected, fun other same => ?_⟩
  refine ⟨same.position_eq whole, fun wish => ?_⟩
  change wish ∈ (other.furthest whole).expected ↔ wish ∈ (failure.furthest whole).expected
  rw [(sums_furthest whole other).expected, (sums_furthest whole failure).expected, List.mem_eraseDups,
    List.mem_eraseDups, same.position_eq whole]
  exact (same.wishesAt_perm whole _).mem_iff

/-- A statement that breaks off in two branches, behind a word that a keyword ran into. -/
theorem ofFailure_furthest_two_branches :
    let shorter := Failure.within "value" (.leaf "b" .number)
    let branches := [shorter, .leaf "ab" .identifier, .alternatives [.leaf "b" (.exactly "("), .leaf "" .wordEnd]]
    let turned := [.alternatives [.leaf "" .wordEnd, .leaf "b" (.exactly "(")], .leaf "ab" .identifier, shorter]
    let names : List Text := ["number", "("]
    (Failure.alternatives branches).Reordered (.alternatives turned) ∧
      (ofFailure "ab" (.alternatives branches)).position = 1 ∧
      (ofFailure "ab" (.alternatives branches)).expected = names ∧
      (ofFailure "ab" (.alternatives turned)).position = 1 ∧
      ∀ wish, wish ∈ (ofFailure "ab" (.alternatives turned)).expected ↔ wish ∈ names := by
  intro shorter branches turned names
  have inner : Failure.Reordered (.alternatives [.leaf "b" (.exactly "("), .leaf "" .wordEnd])
      (.alternatives [.leaf "" .wordEnd, .leaf "b" (.exactly "(")]) := .permuted (.swap ..)
  have same : (Failure.alternatives branches).Reordered (.alternatives turned) :=
    .trans (.branch [shorter, .leaf "ab" .identifier] [] inner) (.permuted (List.reverse_perm turned))
  obtain ⟨position, expected, reordered⟩ := ofFailure_furthest "ab" (.alternatives branches)
  obtain ⟨place, wishes⟩ := reordered _ same
  have first : (ofFailure "ab" (.alternatives branches)).position = 1 := position.trans (by decide +kernel)
  have named : (ofFailure "ab" (.alternatives branches)).expected = names := by
    rw [expected, first]
    decide +kernel
  refine ⟨same, first, named, place.trans first, fun wish => ?_⟩
  rw [← named]
  exact wishes wish

end ParseError

end BulkSql
