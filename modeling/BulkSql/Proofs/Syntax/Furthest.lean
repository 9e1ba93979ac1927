import BulkSql.Syntax.Failure

/-! # The furthest place of a failure

A failure is reported at the furthest of the places where something was wanted. The end of a word does not count, so a
failure that wants nothing else is reported at the start of the text, with nothing to expect.
-/

namespace BulkSql

namespace Failure

/-! ## Leaves -/

theorem leavesOfAll_eq_flatMap (branches : List Failure) : leavesOfAll branches = branches.flatMap leaves := by
  induction branches with
  | nil => rfl
  | cons branch branches ih => rw [leavesOfAll, ih, List.flatMap_cons]

theorem leaves_alternatives (branches : List Failure) : (alternatives branches).leaves = branches.flatMap leaves := by
  rw [leaves, leavesOfAll_eq_flatMap]

/-- The failure wants something that a report counts. -/
def Counts (failure : Failure) : Prop := ∃ leaf ∈ failure.leaves, leaf.2 ≠ .wordEnd

theorem counts_leaf {rest : Text} {wanted : Expectation} : (leaf rest wanted).Counts ↔ wanted ≠ .wordEnd := by
  simp [Counts, leaves]

theorem counts_within {what : Text} {inner : Failure} : (within what inner).Counts ↔ inner.Counts := by
  simp [Counts, leaves]

theorem counts_alternatives {branches : List Failure} :
    (alternatives branches).Counts ↔ ∃ branch ∈ branches, branch.Counts := by
  simp only [Counts, leaves_alternatives, List.mem_flatMap]
  constructor
  · rintro ⟨leaf, ⟨branch, member, inside⟩, counted⟩
    exact ⟨branch, member, leaf, inside, counted⟩
  · rintro ⟨branch, member, leaf, inside, counted⟩
    exact ⟨leaf, ⟨branch, member, inside⟩, counted⟩

/-! ## Places -/

/-- A leaf that counts moves the furthest place to its own if this is further on. -/
theorem position_see (seen : Furthest) (position : Nat) {wanted : Expectation} (counted : wanted ≠ .wordEnd) :
    (seen.see position wanted).position = max seen.position position := by
  unfold Furthest.see
  rw [if_neg counted]
  dsimp only
  by_cases further : seen.position < position
  · rw [if_pos further, if_pos rfl, Nat.max_eq_right (Nat.le_of_lt further)]
    cases wanted.description? <;> rfl
  · rw [if_neg further, Nat.max_eq_left (Nat.le_of_not_lt further)]
    split
    · split
      · split <;> rfl
      · rfl
    · rfl

theorem see_wordEnd (seen : Furthest) (position : Nat) : seen.see position .wordEnd = seen := if_pos rfl

/-- Where the leaves of a failure that count lie in a text. -/
def places (whole : Text) (failure : Failure) : List Nat :=
  (failure.leaves.filter (·.2 ≠ .wordEnd)).map fun leaf => Text.offsetOf whole leaf.1

/-- A failure is reported at the furthest place that counts, or else at the start. -/
theorem position_furthest (whole : Text) (failure : Failure) :
    (failure.furthest whole).position = (failure.places whole).max?.getD 0 := by
  have seen (leaves : List (Text × Expectation)) (start : Furthest) :
      (leaves.foldl (fun seen leaf => seen.see (Text.offsetOf whole leaf.1) leaf.2) start).position =
        ((leaves.filter (·.2 ≠ .wordEnd)).map fun leaf => Text.offsetOf whole leaf.1).foldl max start.position := by
    induction leaves generalizing start with
    | nil => rfl
    | cons leaf leaves ih =>
      obtain ⟨rest, wanted⟩ := leaf
      rw [List.foldl_cons, ih]
      dsimp only
      by_cases counted : wanted = .wordEnd
      · subst counted
        rw [see_wordEnd, List.filter_cons_of_neg (by simp)]
      · rw [position_see _ _ counted, List.filter_cons_of_pos (by simpa using counted), List.map_cons, List.foldl_cons]
  calc (failure.furthest whole).position
      = (failure.places whole).foldl max 0 := seen failure.leaves {}
    _ = max 0 ((failure.places whole).max?.getD 0) := List.foldl_max
    _ = _ := Nat.zero_max _

theorem mem_places {whole : Text} {failure : Failure} {place : Nat} :
    place ∈ failure.places whole ↔
      ∃ leaf ∈ failure.leaves, leaf.2 ≠ .wordEnd ∧ Text.offsetOf whole leaf.1 = place := by
  simp [places, and_assoc]

/-- The reported place is that of a leaf, or the start of the text. -/
theorem furthest_cases (whole : Text) (failure : Failure) :
    (failure.furthest whole).position = 0 ∨
      ∃ leaf ∈ failure.leaves, (failure.furthest whole).position = Text.offsetOf whole leaf.1 := by
  rw [position_furthest]
  cases furthest : (failure.places whole).max? with
  | none => exact .inl rfl
  | some place =>
    obtain ⟨leaf, inside, -, same⟩ := mem_places.mp (List.max?_mem furthest)
    exact .inr ⟨leaf, inside, same.symm⟩

/-- What counts is not further on than the reported place. -/
theorem le_furthest {whole : Text} {failure : Failure} {leaf : Text × Expectation} (member : leaf ∈ failure.leaves)
    (counted : leaf.2 ≠ .wordEnd) : Text.offsetOf whole leaf.1 ≤ (failure.furthest whole).position := by
  rw [position_furthest]
  exact List.le_max?_getD_of_mem (mem_places.mpr ⟨leaf, member, counted, rfl⟩)

/-- Where nothing counts the report says nothing. -/
theorem furthest_of_not_counts {failure : Failure} (nothing : ¬failure.Counts) (whole : Text) :
    failure.furthest whole = {} := by
  have wordEnds : ∀ leaf ∈ failure.leaves, leaf.2 = .wordEnd := fun leaf member =>
    Decidable.not_not.mp fun counted => nothing ⟨leaf, member, counted⟩
  unfold furthest
  generalize failure.leaves = leaves at wordEnds
  induction leaves with
  | nil => rfl
  | cons leaf leaves ih =>
    obtain ⟨rest, wanted⟩ := leaf
    obtain ⟨first, others⟩ := List.forall_mem_cons.mp wordEnds
    obtain rfl : wanted = .wordEnd := first
    exact (congrArg (leaves.foldl _) (see_wordEnd {} _)).trans (ih others)

end Failure

end BulkSql
