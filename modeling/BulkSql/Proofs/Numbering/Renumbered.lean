import BulkSql.Proofs.Numbering.Patterns
import BulkSql.Proofs.Numbering.Scanning
import BulkSql.Proofs.Syntax.Gaps

/-! # Numbered statements are final

A statement is refused only if it has parameters of both styles; else it is numbered at its placeholders and unchanged
elsewhere. What is numbered has no placeholder left: quotes, comments and dollar signs are cut where they were cut before,
since a number and what a placeholder stood in front of only make up a longer number.
-/

namespace BulkSql

open Reader Piece

namespace Piece

variable {c quote : Char} {text text' rest rest' body after after' digits : Text}

/-! ## Numbered parameters -/

theorem cut_parameter (some_ : digits ≠ []) (all : ∀ c ∈ digits, isAnyDigit c) (clear : Clear isAnyDigit rest) :
    cut ('$' :: (digits ++ rest)) = .numbered digits :: cut rest := by
  obtain ⟨d, more, rfl⟩ := List.exists_cons_of_ne_nil some_
  have taken := takeWhile_append_of_clear all clear
  have left := dropWhile_append_of_clear all clear
  rw [cut, first, if_neg (by decide), if_pos rfl, taken, left]

/-- A dollar sign without a digit behind it is a piece alone. -/
theorem cut_dollar (clear : Clear isAnyDigit rest) : cut ('$' :: rest) = .plain '$' :: cut rest := by
  have nothing := takeWhile_append_of_clear (List.forall_mem_nil _) clear
  rw [List.nil_append] at nothing
  rw [cut, first, if_neg (by decide), if_pos rfl, nothing]

theorem opens_of_isAnyDigit (digit : isAnyDigit c) : opens c = false := by
  apply Bool.eq_false_iff.mpr
  intro other
  simp only [opens, Bool.or_eq_true, beq_iff_eq] at other
  rcases other with ((((rfl | rfl) | rfl) | rfl) | rfl) | rfl <;> exact absurd digit (by decide)

theorem cut_digits (all : ∀ c ∈ digits, isAnyDigit c) (rest : Text) :
    cut (digits ++ rest) = digits.map .plain ++ cut rest := by
  induction digits with
  | nil => rfl
  | cons d digits ih =>
    obtain ⟨one, others⟩ := List.forall_mem_cons.mp all
    rw [List.cons_append, cut_plain (opens_of_isAnyDigit one), ih others, List.map_cons, List.cons_append]

/-! ## Question marks that are filled in -/

/-- The second text is the first with some question marks written as a dollar sign and digits. -/
inductive Fills : Text → Text → Prop where
  | nil : Fills [] []
  | keep (c : Char) {text text' : Text} (more : Fills text text') : Fills (c :: text) (c :: text')
  | mark {digits text text' : Text} (all : ∀ c ∈ digits, isAnyDigit c) (more : Fills text text') :
    Fills ('?' :: text) ('$' :: (digits ++ text'))

namespace Fills

theorem kept (front : Text) (fills : Fills text text') : Fills (front ++ text) (front ++ text') := by
  induction front with
  | nil => exact fills
  | cons c front ih => exact .keep c ih

/-- Filling changes the first character of a text from a question mark to a dollar sign only. -/
theorem clear {avoided : Char → Bool} (fills : Fills text text') (noDollar : avoided '?' = false → avoided '$' = false)
    (clear : Clear avoided text) : Clear avoided text' := by
  cases fills with
  | nil => exact clear
  | keep c => exact clear_cons.mpr (clear_cons.mp clear)
  | mark => exact clear_cons.mpr (noDollar (clear_cons.mp clear))

theorem head?_ne (fills : Fills text text') (noDollar : c ≠ '$') (other : text.head? ≠ some c) : text'.head? ≠ some c := by
  cases fills with
  | nil | keep => exact other
  | mark =>
    rintro ⟨⟩
    exact noDollar rfl

/-- Nothing that opens a piece is written, but dollar signs. -/
theorem not_mem (fills : Fills text text') (opening : opens c) (noDollar : c ≠ '$') (none_ : c ∉ text) : c ∉ text' := by
  induction fills with
  | nil => exact none_
  | keep d _ ih =>
    rw [List.mem_cons, not_or] at none_
    exact List.not_mem_cons_of_ne_of_not_mem none_.1 (ih none_.2)
  | mark all _ ih =>
    refine List.not_mem_cons_of_ne_of_not_mem noDollar fun member => ?_
    rcases List.mem_append.mp member with digit | behind
    · rw [opens_of_isAnyDigit (all c digit)] at opening
      cases opening
    · exact ih (fun member => none_ (List.mem_cons_of_mem _ member)) behind

end Fills

theorem first_cases (c : Char) (rest : Text) :
    (c = '?' ∧ first c rest = (.placeholder, rest)) ∨
      (c = '$' ∧ Clear isAnyDigit rest ∧ first c rest = (.plain c, rest)) ∨
      (∃ digits after, first c rest = (.numbered digits, after)) ∨
      ((c ≠ '?' ∧ c ≠ '$') ∧ ∃ body after,
        closedRest? c rest = some (body, after) ∧ first c rest = (.closed (c :: body), after)) ∨
      ((c ≠ '?' ∧ c ≠ '$') ∧ closedRest? c rest = none ∧ first c rest = (.plain c, rest)) := by
  unfold first
  split
  · next mark => exact .inl ⟨mark, rfl⟩
  next noMark =>
  split
  · next dollar =>
    split
    · next nothing =>
      have clear := clear_dropWhile isAnyDigit rest
      have whole := List.takeWhile_append_dropWhile (p := isAnyDigit) (l := rest)
      rw [nothing, List.nil_append] at whole
      rw [whole] at clear
      exact .inr (.inl ⟨dollar, clear, rfl⟩)
    · exact .inr (.inr (.inl ⟨_, _, rfl⟩))
  next noDollar =>
  split
  · next body after found => exact .inr (.inr (.inr (.inl ⟨⟨noMark, noDollar⟩, body, after, found, rfl⟩)))
  · next open_ => exact .inr (.inr (.inr (.inr ⟨⟨noMark, noDollar⟩, open_, rfl⟩)))

/-! ## What stays closed, and what stays open -/

theorem closeQuote?_eq_none_iff : closeQuote? quote text = none ↔ quote ∉ text := by
  fun_induction closeQuote? quote text with
  | case1 => simp
  | case2 | case3 | case4 | case5 => simp
  | case6 c rest other ih => simp [ih, Ne.symm other]

/-- Quoted text stays closed where it was. -/
theorem closeQuote?_of_fills (isQuote : quote = '\'' ∨ quote = '"') (fills : Fills after after')
    (closed : closeQuote? quote text = some (body, after)) : closeQuote? quote (body ++ after') = some (body, after') := by
  have opening : opens quote ∧ quote ≠ '$' := by rcases isQuote with rfl | rfl <;> decide
  fun_induction closeQuote? quote text generalizing body after with
  | case1 => cases closed
  | case2 =>
    cases closed
    cases fills
    rw [List.append_nil, closeQuote?, if_pos rfl]
  | case3 rest body' _ found ih =>
    cases closed
    have behind := ih fills found
    rw [List.cons_append, List.cons_append, closeQuote?, if_pos rfl]
    simp only [if_true, behind]
  | case4 rest open_ =>
    cases closed
    cases fills with
    | @keep _ _ rest' more =>
      have stillOpen := closeQuote?_eq_none_iff.mpr
        (more.not_mem opening.1 opening.2 (closeQuote?_eq_none_iff.mp open_))
      rw [List.singleton_append, closeQuote?, if_pos rfl]
      simp only [if_true, stillOpen]
    | mark => rcases isQuote with same | same <;> cases same
  | case5 d rest other =>
    cases closed
    have apart := fills.head?_ne opening.2 (c := quote) (by simpa using other)
    cases after' with
    | nil => rw [List.append_nil, closeQuote?, if_pos rfl]
    | cons d' rest' =>
      rw [List.singleton_append, closeQuote?, if_pos rfl]
      exact if_neg (by simpa using apart)
  | case6 c rest other ih =>
    obtain ⟨⟨body', _⟩, found, same⟩ := Option.map_eq_some_iff.mp closed
    cases same
    rw [List.cons_append, closeQuote?.eq_def]
    simp only [if_neg other, ih fills found, Option.map_some]

/-- A line comment stays on its line. -/
theorem lineComment?_of_fills (fills : Fills after after') (found : lineComment? text = some (body, after)) :
    lineComment? (body ++ after') = some (body, after') := by
  unfold lineComment? at found
  split at found
  · next line =>
    cases found
    have onLine : ∀ c ∈ line.takeWhile (· != '\n'), (c != '\n') = true := fun c => List.mem_takeWhile_imp
    have clear := fills.clear (by decide) (clear_dropWhile (· != '\n') line)
    rw [List.cons_append, lineComment?, takeWhile_append_of_clear onLine clear, dropWhile_append_of_clear onLine clear]
  · cases found

/-- Where no block comment ended, none ends. -/
theorem afterBlock?_eq_none_of_fills (fills : Fills text text') (open_ : afterBlock? text = none) :
    afterBlock? text' = none := by
  have skip {c : Char} {rest : Text} (other : ¬ (c = '*' ∧ rest.head? = some '/')) :
      afterBlock? (c :: rest) = afterBlock? rest := by
    rw [afterBlock?.eq_def]
    split
    · next same =>
      cases same
      exact absurd ⟨rfl, rfl⟩ other
    · next same =>
      cases same
      rfl
    · next same => cases same
  induction fills with
  | nil => exact open_
  | @keep c text text' more ih =>
    have other : ¬ (c = '*' ∧ text.head? = some '/') := by
      rintro ⟨rfl, here⟩
      obtain ⟨rest, rfl⟩ := List.head?_eq_some_iff.mp here
      cases open_
    rw [skip other] at open_
    rw [skip fun ends => more.head?_ne (by decide) (fun here => other ⟨ends.1, here⟩) ends.2]
    exact ih open_
  | @mark digits text text' all more ih =>
    rw [skip (by simp)] at open_
    rw [skip (by simp)]
    induction digits with
    | nil => exact ih open_
    | cons d digits ihDigits =>
      obtain ⟨one, others⟩ := List.forall_mem_cons.mp all
      rw [List.cons_append, skip]
      · exact ihDigits others
      · rintro ⟨rfl, -⟩
        exact absurd one (by decide)

/-- A block comment ends where it ended. -/
theorem blockComment?_of_found (found : blockComment? text = some (body, after)) (after' : Text) :
    blockComment? (body ++ after') = some (body, after') := by
  have split_ := append_of_blockComment? found
  unfold blockComment? at found
  split at found
  · next block =>
    obtain ⟨_, closed, same⟩ := Option.map_eq_some_iff.mp found
    cases same
    obtain ⟨inside, noEnd, rfl⟩ := afterBlock?_eq_some_iff.mp closed
    have whole : '*' :: (inside ++ '*' :: '/' :: after) = '*' :: (inside ++ ['*', '/']) ++ after := by simp
    rw [whole] at split_
    rw [List.append_cancel_right split_]
    have closed' : afterBlock? (inside ++ ['*', '/'] ++ after') = some after' :=
      afterBlock?_eq_some_iff.mpr ⟨inside, noEnd, by simp⟩
    rw [List.cons_append, blockComment?, closed', Option.map_some, List.length_append, Nat.add_sub_cancel, List.take_left]
  · cases found

theorem closedRest?_of_fills (fills : Fills after after') (found : closedRest? c rest = some (body, after)) :
    closedRest? c (body ++ after') = some (body, after') := by
  unfold closedRest? at found ⊢
  split at found
  · next isQuote =>
    rw [if_pos isQuote]
    exact closeQuote?_of_fills isQuote fills found
  · next noQuote =>
    rw [if_neg noQuote]
    split at found
    · next hyphen =>
      rw [if_pos hyphen]
      exact lineComment?_of_fills fills found
    · next noHyphen =>
      rw [if_neg noHyphen]
      split at found
      · next slash =>
        rw [if_pos slash]
        exact blockComment?_of_found found after'
      · cases found

/-- What starts no comment before a question mark is filled in starts none behind. -/
theorem lineComment?_eq_none_of_fills (fills : Fills text text') (open_ : lineComment? text = none) :
    lineComment? text' = none := by
  have apart : text.head? ≠ some '-' := by
    intro here
    obtain ⟨line, rfl⟩ := List.head?_eq_some_iff.mp here
    cases open_
  have apart' := fills.head?_ne (by decide) apart
  unfold lineComment?
  split
  · exact absurd rfl apart'
  · rfl

theorem blockComment?_eq_none_of_fills (fills : Fills text text') (open_ : blockComment? text = none) :
    blockComment? text' = none := by
  cases fills with
  | nil | mark => rfl
  | keep c more =>
    unfold blockComment? at open_ ⊢
    split at open_
    · next same =>
      cases same
      have stillOpen := afterBlock?_eq_none_of_fills more (Option.map_eq_none_iff.mp open_)
      simp only [stillOpen, Option.map_none]
    · next other =>
      split
      · next same =>
        cases same
        exact absurd rfl (other _)
      · rfl

theorem closedRest?_eq_none_of_fills (fills : Fills rest rest') (open_ : closedRest? c rest = none) :
    closedRest? c rest' = none := by
  unfold closedRest? at open_ ⊢
  split at open_
  · next isQuote =>
    have opening : opens c ∧ c ≠ '$' := by rcases isQuote with rfl | rfl <;> decide
    rw [if_pos isQuote, closeQuote?_eq_none_iff]
    exact fills.not_mem opening.1 opening.2 (closeQuote?_eq_none_iff.mp open_)
  · next noQuote =>
    rw [if_neg noQuote]
    split at open_
    · next hyphen =>
      rw [if_pos hyphen]
      exact lineComment?_eq_none_of_fills fills open_
    · next noHyphen =>
      rw [if_neg noHyphen]
      split at open_
      · next slash =>
        rw [if_pos slash]
        exact blockComment?_eq_none_of_fills fills open_
      · next noSlash => rw [if_neg noSlash]

/-- Behind a dollar sign and digits there is no placeholder where there was none before. -/
theorem placeholder_not_mem_cut_parameter (some_ : digits ≠ []) (all : ∀ c ∈ digits, isAnyDigit c)
    (none_ : .placeholder ∉ cut rest) : .placeholder ∉ cut ('$' :: (digits ++ rest)) := by
  -- the digits that start the rest belong to the number, too
  have front : ∀ c ∈ rest.takeWhile isAnyDigit, isAnyDigit c := fun c => List.mem_takeWhile_imp
  have whole : digits ++ rest = digits ++ rest.takeWhile isAnyDigit ++ rest.dropWhile isAnyDigit := by
    rw [List.append_assoc, List.takeWhile_append_dropWhile]
  have pieces := cut_digits front (rest.dropWhile isAnyDigit)
  rw [List.takeWhile_append_dropWhile] at pieces
  rw [pieces] at none_
  rw [whole, cut_parameter (fun nothing => some_ (List.append_eq_nil_iff.mp nothing).1)
    (List.forall_mem_append.mpr ⟨all, front⟩) (clear_dropWhile _ rest)]
  have behind : .placeholder ∉ cut (rest.dropWhile isAnyDigit) := fun member => none_ (List.mem_append_right _ member)
  simpa using behind

end Piece

namespace Numbering

variable {c : Char} {text sql : Text} {pieces : List Piece}

/-! ## What is written -/

/-- The pieces, but the first placeholder as a dollar sign and one, the second as a dollar sign and two, and so on. -/
def written (pieces : List Piece) : Text :=
  pieces.zipIdx.flatMap fun (piece, index) =>
    if piece = .placeholder then '$' :: Text.ofNat ((pieces.take (index + 1)).count .placeholder) else piece.text

theorem renumber_eq_flatMap (met : Nat) (pieces : List Piece) :
    renumber met pieces = pieces.zipIdx.flatMap fun (piece, index) =>
      if piece = .placeholder then '$' :: Text.ofNat (met + (pieces.take (index + 1)).count .placeholder)
      else piece.text := by
  induction pieces generalizing met with
  | nil => rfl
  | cons piece pieces ih =>
    rw [List.zipIdx_cons, List.flatMap_cons, List.zipIdx_succ, List.flatMap_map]
    cases piece with
    | placeholder => simp [renumber, ih, Nat.add_assoc, Nat.add_comm 1]
    | closed | numbered | plain => simp [renumber, ih]

theorem renumber_zero (pieces : List Piece) : renumber 0 pieces = written pieces := by
  simp only [renumber_eq_flatMap, Nat.zero_add, written]

theorem isAnyDigit_of_mem_ofNat {n : Nat} (member : c ∈ Text.ofNat n) : isAnyDigit c :=
  isAnyDigit_of_isDigit c (Nat.isDigit_of_mem_toDigits (by decide) (by decide) member)

/-- Numbering fills in question marks. -/
theorem fills_renumber (met : Nat) (pieces : List Piece) : Fills (pieces.flatMap Piece.text) (renumber met pieces) := by
  induction pieces generalizing met with
  | nil => exact .nil
  | cons piece pieces ih =>
    rw [List.flatMap_cons]
    cases piece with
    | placeholder => exact .mark (fun _ => isAnyDigit_of_mem_ofNat) (ih (met + 1))
    | closed | numbered | plain => exact (ih met).kept _

theorem fills_renumber_cut (met : Nat) (text : Text) : Fills text (renumber met (cut text)) := by
  have fills := fills_renumber met (cut text)
  rwa [flatMap_text_cut] at fills

/-- Where nothing was numbered before, no placeholder is left. -/
theorem placeholder_not_mem_cut_renumber (met : Nat) (noNumbers : ∀ digits, .numbered digits ∉ cut text) :
    .placeholder ∉ cut (renumber met (cut text)) := by
  fun_induction cut text generalizing met with
  | case1 =>
    rw [renumber, cut]
    exact List.not_mem_nil
  | case2 c rest ih =>
    replace ih := fun met => ih met fun digits member => noNumbers digits (List.mem_cons_of_mem _ member)
    rcases first_cases c rest with ⟨rfl, found⟩ | ⟨rfl, clear, found⟩ | ⟨digits, after, found⟩ |
      ⟨noMark, body, after, closed, found⟩ | ⟨noMark, open_, found⟩ <;> simp only [found] at ih noNumbers ⊢
    · exact placeholder_not_mem_cut_parameter Nat.toDigits_ne_nil (fun _ => isAnyDigit_of_mem_ofNat) (ih (met + 1))
    · have clear' := (fills_renumber_cut met rest).clear (by decide) clear
      change _ ∉ cut ('$' :: renumber met (cut rest))
      rw [cut_dollar clear']
      simpa using ih met
    · exact absurd List.mem_cons_self (noNumbers digits)
    · have closed' := closedRest?_of_fills (fills_renumber_cut met after) closed
      change _ ∉ cut (c :: (body ++ renumber met (cut after)))
      rw [cut_of_closedRest? noMark closed']
      simpa using ih met
    · have stillOpen := closedRest?_eq_none_of_fills (fills_renumber_cut met rest) open_
      change _ ∉ cut (c :: renumber met (cut rest))
      rw [cut_of_open noMark stillOpen]
      simpa using ih met

/-! ## Numbered statements -/

theorem number_of_not_mem (none_ : .placeholder ∉ cut sql) : number sql = .ok { sql, count := 0 } := by
  rw [number_of_not_mixed fun mixed => none_ mixed.1, renumber_of_not_mem 0 none_, flatMap_text_cut,
    List.count_eq_zero.mpr none_]

/-- What is numbered is numbered once and for all. -/
theorem number_renumber (oneStyle : ¬ (.placeholder ∈ cut sql ∧ ∃ digits, .numbered digits ∈ cut sql)) :
    number (renumber 0 (cut sql)) = .ok { sql := renumber 0 (cut sql), count := 0 } := by
  apply number_of_not_mem
  by_cases some_ : .placeholder ∈ cut sql
  · exact placeholder_not_mem_cut_renumber 0 fun digits member => oneStyle ⟨some_, digits, member⟩
  · rwa [renumber_of_not_mem 0 some_, flatMap_text_cut]

/-- Every text is cut into preferred pieces in one way. A statement with parameters of both styles is refused; any other is
numbered at its placeholders, which are counted, and nowhere else. What is numbered is numbered already. -/
theorem number_written (sql : Text) :
    ∃ pieces, (∀ other, IsCut sql other ↔ other = pieces) ∧ pieces.flatMap Piece.text = sql ∧
      (number sql = .error .mixedStyles ↔ .placeholder ∈ pieces ∧ ∃ digits, .numbered digits ∈ pieces) ∧
      (¬ (.placeholder ∈ pieces ∧ ∃ digits, .numbered digits ∈ pieces) →
        number sql = .ok { sql := written pieces, count := pieces.count .placeholder } ∧
        number (written pieces) = .ok { sql := written pieces, count := 0 }) := by
  refine ⟨cut sql, fun other => isCut_iff, flatMap_text_cut sql, number_eq_error_iff, fun oneStyle => ?_⟩
  rw [← renumber_zero]
  exact ⟨number_of_not_mixed oneStyle, number_renumber oneStyle⟩

/-- A number grows by the digit behind its placeholder; the last quote closes nothing. -/
example : number "?5 'a''b ?" = .ok { sql := "$15 'a''b $2", count := 2 } := by decide +kernel

end Numbering

end BulkSql
