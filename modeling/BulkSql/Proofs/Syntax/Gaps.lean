import BulkSql.Proofs.Syntax.Scans

/-! # Gaps between tokens

What stands between tokens, said without a reader: spaces and line breaks, line comments and closed block comments, one
after another. Only a line comment depends on what stands behind the gap, since it goes on to the next line break. A gap
is as long as it can be where no layout starts behind it; that nothing starts somewhere stays so if the text ends early.
-/

namespace BulkSql

open Reader Token

variable {text rest before after gap : Text}

theorem Clear.of_append {avoided : Char → Bool} (clear : Clear avoided (text ++ rest)) : Clear avoided text := by
  cases text with
  | nil => exact clear_nil avoided
  | cons c more => exact clear

/-! ## Comments -/

/-- A block comment is closed by the first star that has a slash behind it. -/
theorem afterBlock?_eq_some_iff :
    afterBlock? text = some rest ↔ ∃ body, ¬ ['*', '/'] <:+: body ∧ text = body ++ '*' :: '/' :: rest := by
  constructor
  · intro closed
    fun_induction afterBlock? text with
    | case1 =>
      cases closed
      exact ⟨[], by simp, rfl⟩
    | case2 c behind goesOn ih =>
      obtain ⟨body, open_, rfl⟩ := ih closed
      refine ⟨c :: body, fun closes => ?_, rfl⟩
      rcases List.infix_cons_iff.mp closes with ⟨more, here⟩ | later
      · cases here
        exact goesOn _ rfl rfl
      · exact open_ later
    | case3 => cases closed
  · rintro ⟨body, open_, rfl⟩
    induction body with
    | nil => rfl
    | cons c body ih =>
      have inside := ih fun later => open_ (later.trans (List.suffix_cons c body).isInfix)
      rw [List.cons_append, afterBlock?.eq_def]
      split
      · next more same =>
        -- a star and a slash at the very start would stand inside the comment
        cases body with
        | nil => cases same
        | cons d body =>
          cases same
          exact absurd ⟨[], body, rfl⟩ open_
      · next same =>
        cases same
        exact inside
      · next same => cases same

/-- The text is empty or goes on with a line break. -/
def EndsLine (text : Text) : Prop := Clear (fun c => !isLineBreak c) text

theorem afterLine_append {body : Text} (inLine : ∀ c ∈ body, isLineBreak c = false) (ends : EndsLine rest) :
    afterLine (body ++ rest) = rest :=
  dropWhile_append_of_clear (fun c member => by rw [inLine c member]; rfl) ends

theorem exists_afterLine (text : Text) :
    ∃ body, text = body ++ afterLine text ∧ (∀ c ∈ body, isLineBreak c = false) ∧ EndsLine (afterLine text) := by
  refine ⟨_, List.takeWhile_append_dropWhile.symm, fun c member => ?_, clear_dropWhile _ _⟩
  simpa using List.mem_takeWhile_imp member

/-! ## Layout as written -/

/-- Layout in front of a text. -/
inductive IsLayout (after : Text) : (gap : Text) → Prop where
  | nil : IsLayout after []
  | space {c : Char} {gap : Text} (space : isSpace c) (more : IsLayout after gap) : IsLayout after (c :: gap)
  | line {body gap : Text} (inLine : ∀ c ∈ body, isLineBreak c = false) (ends : EndsLine (gap ++ after))
    (more : IsLayout after gap) : IsLayout after ('-' :: '-' :: (body ++ gap))
  | block {body gap : Text} (open_ : ¬ ['*', '/'] <:+: body) (more : IsLayout after gap) :
    IsLayout after ('/' :: '*' :: (body ++ '*' :: '/' :: gap))

namespace IsLayout

theorem append (layout : IsLayout (rest ++ after) gap) (more : IsLayout after rest) : IsLayout after (gap ++ rest) := by
  induction layout with
  | nil => exact more
  | space space _ ih => exact .space space ih
  | @line body gap inLine ends _ ih =>
    rw [List.cons_append, List.cons_append, List.append_assoc]
    refine .line inLine ?_ ih
    rwa [List.append_assoc]
  | @block body gap open_ _ ih =>
    rw [List.cons_append, List.cons_append, List.append_assoc]
    exact .block open_ ih

/-- Layout in front of a text is layout in front of each start of it. -/
theorem of_append (layout : IsLayout (after ++ rest) gap) : IsLayout after gap := by
  induction layout with
  | nil => exact .nil
  | space space _ ih => exact .space space ih
  | line inLine ends _ ih =>
    rw [← List.append_assoc] at ends
    exact .line inLine ends.of_append ih
  | block open_ _ ih => exact .block open_ ih

theorem skipLayout_eq (layout : IsLayout after gap) : skipLayout (gap ++ after) = skipLayout after := by
  induction layout with
  | nil => rfl
  | space space _ ih => exact (skipLayout_of_isSpace space _).trans ih
  | @line body gap inLine ends _ ih =>
    have step : Step [] ('-' :: '-' :: (body ++ (gap ++ after))) [] (gap ++ after) := by
      have next := @Step.line [] (body ++ (gap ++ after))
      rwa [afterLine_append inLine ends] at next
    rw [List.cons_append, List.cons_append, List.append_assoc, step.skipLayout_eq, ih]
  | @block body gap open_ _ ih =>
    have closed : afterBlock? (body ++ '*' :: '/' :: (gap ++ after)) = some (gap ++ after) :=
      afterBlock?_eq_some_iff.mpr ⟨body, open_, rfl⟩
    rw [List.cons_append, List.cons_append, List.append_assoc, List.cons_append, List.cons_append, skipLayout_block,
      closed, Option.elim_some, ih]

end IsLayout

/-- What is skipped is layout. -/
theorem exists_isLayout (text : Text) : ∃ gap, text = gap ++ skipLayout text ∧ IsLayout (skipLayout text) gap := by
  fun_induction skipLayout text with
  | case1 => exact ⟨[], rfl, .nil⟩
  | case2 c rest space ih =>
    obtain ⟨gap, split, layout⟩ := ih
    exact ⟨c :: gap, congrArg (c :: ·) split, .space space layout⟩
  | case3 line space ih =>
    obtain ⟨gap, split, layout⟩ := ih
    obtain ⟨body, whole, inLine, ends⟩ := exists_afterLine line
    rw [split] at ends
    refine ⟨'-' :: '-' :: (body ++ gap), ?_, .line inLine ends layout⟩
    rw [List.cons_append, List.cons_append, List.append_assoc, ← split, ← whole]
  | case4 block after closed space ih =>
    obtain ⟨gap, split, layout⟩ := ih
    obtain ⟨body, open_, rfl⟩ := afterBlock?_eq_some_iff.mp closed
    refine ⟨'/' :: '*' :: (body ++ '*' :: '/' :: gap), ?_, .block open_ layout⟩
    simp only [List.cons_append, List.append_assoc, ← split]
  | case5 => exact ⟨[], rfl, .nil⟩
  | case6 => exact ⟨[], rfl, .nil⟩

/-! ## Where layout starts -/

/-- The text starts with a space or with a comment. -/
def StartsLayout (text : Text) : Prop := ∃ gap after, gap ≠ [] ∧ text = gap ++ after ∧ IsLayout after gap

theorem startsLayout_iff : StartsLayout text ↔ skipLayout text ≠ text := by
  constructor
  · rintro ⟨gap, after, some_, rfl, layout⟩ same
    rw [layout.skipLayout_eq] at same
    have short := length_skipLayout_le after
    have long := List.length_pos_iff.mpr some_
    rw [same, List.length_append] at short
    omega
  · intro differs
    obtain ⟨gap, split, layout⟩ := exists_isLayout text
    refine ⟨gap, skipLayout text, ?_, split, layout⟩
    rintro rfl
    exact differs split.symm

theorem not_startsLayout_iff : ¬ StartsLayout text ↔ skipLayout text = text :=
  startsLayout_iff.not.trans not_not

theorem not_startsLayout_skipLayout (text : Text) : ¬ StartsLayout (skipLayout text) :=
  not_startsLayout_iff.mpr (skipLayout_skipLayout text)

/-- Where layout starts, one step passes a space or a comment. -/
theorem exists_step (starts : StartsLayout text) (whole : Text) : ∃ mid, Step whole text [] mid := by
  have differs := startsLayout_iff.mp starts
  revert differs
  fun_cases skipLayout text with
  | case1 => exact fun differs => absurd rfl differs
  | case2 c rest space => exact fun _ => ⟨rest, .space space rest⟩
  | case3 line space => exact fun _ => ⟨_, .line line⟩
  | case4 block after closed space => exact fun _ => ⟨after, .block closed⟩
  | case5 | case6 => exact fun differs => absurd rfl differs

/-- Layout that starts in a text starts in each longer one. -/
theorem StartsLayout.append (starts : StartsLayout text) (rest : Text) : StartsLayout (text ++ rest) := by
  obtain ⟨mid, step⟩ := exists_step starts []
  apply startsLayout_iff.mpr
  cases step with
  | space space => exact (@Step.space [] _ space _).not_bare
  | line line => exact (@Step.line [] _).not_bare
  | block closed =>
    obtain ⟨body, open_, rfl⟩ := afterBlock?_eq_some_iff.mp closed
    have longer : afterBlock? (body ++ '*' :: '/' :: mid ++ rest) = some (mid ++ rest) :=
      afterBlock?_eq_some_iff.mpr ⟨body, open_, by simp⟩
    exact (@Step.block [] _ _ longer).not_bare

end BulkSql
