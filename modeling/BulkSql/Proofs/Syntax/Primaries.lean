import BulkSql.Proofs.Syntax.Levels

/-! # Primary expressions

Constants, columns, calls and nested expressions are told apart by how they start. Calls and nested expressions are
read back by any reader that reads their parts back from shorter texts.
-/

namespace BulkSql

namespace Expr

open Reader

variable {inner : Reader Expr} {bound : Nat}

/-! ## How they start -/

section Starts

variable {text rest : Text}

theorem clear_isSign_of_startsOperand {c : Char} (starts : startsOperand c) (more : Text) :
    Clear isSign (c :: more) := by
  refine clear_cons.mpr (Bool.eq_false_iff.mpr fun sign => ?_)
  rcases Bool.or_eq_true_iff.mp sign with plus | minus
  · rw [beq_iff_eq.mp plus] at starts
    exact absurd starts (by decide)
  · rw [beq_iff_eq.mp minus] at starts
    exact absurd starts (by decide)

/-- A name is no constant, and no parameter either. -/
theorem fails_constants_of_identifier {name : Text} (done : identifier text = .done name rest) :
    Fails readPlaceholder text ∧ Fails readLiteral text := by
  obtain ⟨c, more, rfl, -, rfl | ⟨start, free⟩⟩ := identifier_head done
  · refine ⟨fails_readPlaceholder (clear_cons.mpr rfl), fails_readLiteral (clear_cons.mpr rfl) fun keyword _ => ?_⟩
    rw [lookup?_leadWord_of_not_isAlpha (by decide)]
    simp
  · have noMark : (c == '?') = false := by
      apply Bool.eq_false_iff.mpr
      intro mark
      rw [beq_iff_eq.mp mark] at start
      exact absurd start (by decide)
    have noConstant : startsConstant c = false := by
      apply Bool.eq_false_iff.mpr
      intro starts
      simp only [startsConstant, Bool.or_eq_true, beq_iff_eq] at starts
      rcases starts with (digit | rfl) | rfl
      · have noLetter := not_isAlpha_of_isDecimalDigit digit
        simp only [isWordStart, isLetter, noLetter, Bool.false_or, beq_iff_eq] at start
        rw [start] at digit
        exact absurd digit (by decide)
      · exact absurd start (by decide)
      · exact absurd start (by decide)
    refine ⟨fails_readPlaceholder (clear_cons.mpr noMark), fails_readLiteral (clear_cons.mpr noConstant) ?_⟩
    intro keyword _ found
    rw [isReserved, found] at free
    cases free

theorem fails_readPlaceholder_of_literal {tree : Expr} (done : readLiteral text = .done tree rest) :
    Fails readPlaceholder text := by
  refine (fails_symbol ?_).bind _
  rintro ⟨more, rfl⟩
  refine Fails.not_done (fails_readLiteral (clear_cons.mpr rfl) fun keyword _ => ?_) done
  change Keyword.lookup? (leadWord ('?' :: more)) ≠ _
  rw [lookup?_leadWord_of_not_isAlpha (by decide)]
  simp

theorem fails_constants_of_dotted {qualifier? : Option Text} {name : Text}
    (spells : Spells (Lexeme.dotted qualifier? name) text rest) :
    Fails readPlaceholder text ∧ Fails readLiteral text := by
  cases qualifier? with
  | none => exact fails_constants_of_identifier spells.choose_spec.1
  | some qualifier => exact fails_constants_of_identifier spells.choose_spec.1

/-- Names at the start of a text that opens a parenthesis are a call, else a column. -/
theorem fails_readCall_of_identifier {name : Text} (done : identifier text = .done name rest)
    (missing : ¬['('] <+: rest) :
    Fails (readCall inner) text :=
  fails_bind_of_done done ((fails_parenthesized missing).bind _)

theorem readDotted_of_spells {qualifier? : Option Text} {name : Text}
    (spells : Spells (Lexeme.dotted qualifier? name) text rest) (dotless : ¬['.'] <+: rest) :
    readDotted text = .done (qualifier?, name) rest := by
  unfold readDotted
  cases qualifier? with
  | none =>
    obtain ⟨mid, first, rfl⟩ := spells
    apply (bind_of_done first _).trans
    exact bind_of_done (optional_of_fails ((fails_symbol dotless).bind _)) _
  | some qualifier =>
    obtain ⟨dotted, first, afterDot, dot, afterName, second, rfl⟩ := spells
    apply (bind_of_done first _).trans
    have behind : (do let _ ← Reader.symbol ['.']; identifier) dotted = .done name afterName :=
      (bind_of_done dot _).trans second
    exact bind_of_done (optional_of_done behind) _

theorem readColumn_of_spells {column : ColumnRef}
    (spells : Spells (Lexeme.dotted column.qualifier? column.name) text rest)
    (stops : Stops 9 rest) : readColumn text = .done (.column column) rest :=
  bind_of_done (readDotted_of_spells spells (stops.not_prefix (Nat.le_refl _) fun _ => rfl)) _

/-- A column is not taken for a call. -/
theorem fails_readCall_of_dotted {column : ColumnRef}
    (spells : Spells (Lexeme.dotted column.qualifier? column.name) text rest)
    (stops : Stops 9 rest) : Fails (readCall inner) text := by
  obtain ⟨qualifier?, name⟩ := column
  cases qualifier? with
  | none =>
    obtain ⟨mid, first, rfl⟩ := spells
    exact fails_readCall_of_identifier first (stops.not_prefix (Nat.le_refl _) fun _ => rfl)
  | some qualifier =>
    obtain ⟨afterFirst, first, afterDot, dot, -⟩ := spells
    obtain ⟨-, mid, rfl, -⟩ := symbol_eq_done_iff.mp dot
    exact fails_readCall_of_identifier first (by simp)

/-- Where a parenthesis opens or closes, nothing but a nested expression starts. -/
theorem fails_others_at_parenthesis {c : Char} (paren : c = '(' ∨ c = ')') (more : Text) :
    Fails readPlaceholder (c :: more) ∧ Fails readLiteral (c :: more) ∧ Fails identifier (c :: more) := by
  have noLetter : c.isAlpha = false := by rcases paren with rfl | rfl <;> decide
  have noConstant : startsConstant c = false := by rcases paren with rfl | rfl <;> decide
  have noName : (isWordStart c || c == '"') = false := by rcases paren with rfl | rfl <;> decide
  have noMark : (c == '?') = false := by rcases paren with rfl | rfl <;> decide
  refine ⟨fails_readPlaceholder (clear_cons.mpr noMark), ?_, fails_identifier_of_clear (clear_cons.mpr noName)⟩
  apply fails_readLiteral (clear_cons.mpr noConstant)
  intro keyword _
  rw [lookup?_leadWord_of_not_isAlpha noLetter]
  simp

theorem fails_constants_of_nested {tree : Expr} (spells : Spells (Expr.nested tree).lexemes text rest) :
    Fails readPlaceholder text ∧ Fails readLiteral text ∧ Fails identifier text := by
  obtain ⟨start, mid, opened, -⟩ := Lexeme.spells_parenthesized_iff.mp spells
  obtain ⟨-, behind, rfl, -⟩ := symbol_eq_done_iff.mp opened
  exact fails_others_at_parenthesis (.inl rfl) behind

/-- No expression starts with a closing parenthesis. -/
theorem fails_read_closing (more : Text) : Fails read (')' :: more) := by
  obtain ⟨noMark, noLiteral, noName⟩ := fails_others_at_parenthesis (.inr rfl) more
  rw [Fails, read, recursive_apply]
  refine fails_levelReader (clear_cons.mpr rfl) (fails_firstOf fun reader member => ?_) 0
  simp only [List.mem_cons, List.not_mem_nil, or_false] at member
  rcases member with rfl | rfl | rfl | rfl | rfl
  · exact noMark
  · exact noLiteral
  · exact noName.bind _
  · exact (noName.bind _).bind _
  · exact (fails_parenthesized (by simp)).bind _

end Starts

/-! ## Parts -/

/-- A reader of expressions reads a tree back from texts below a length. -/
def ReadsBack (inner : Reader Expr) (bound : Nat) (tree : Expr) : Prop :=
  ∀ text rest, text.length < bound → Spells tree.lexemes text rest → Stops 0 rest → inner text = .done tree rest

theorem stops_comma (rest : Text) (level : Nat) : Stops level (',' :: rest) :=
  stops_of_none rfl level

theorem stops_closing (rest : Text) (level : Nat) : Stops level (')' :: rest) :=
  stops_of_none rfl level

theorem readNested_of_spells {tree : Expr} (back : ReadsBack inner bound tree) {text rest : Text}
    (below : text.length ≤ bound) (spells : Spells (Expr.nested tree).lexemes text rest) :
    readNested inner text = .done (.nested tree) rest := by
  obtain ⟨start, mid, opened, spelled, closed⟩ := Lexeme.spells_parenthesized_iff.mp spells
  have shorter := symbol_shorter opened (by simp)
  have stops : Stops 0 mid := by
    obtain ⟨-, after, rfl, -⟩ := symbol_eq_done_iff.mp closed
    exact stops_closing after 0
  refine bind_of_done (parenthesized_eq_done_iff.mpr ⟨start, mid, opened, ?_, closed⟩) _
  exact back start mid (by omega) spelled stops

theorem readCall_of_spells {name : Text} {arguments : List Expr}
    (each : ∀ argument ∈ arguments, ReadsBack inner bound argument)
    (closes : ∀ more, (')' :: more).length < bound → Fails inner (')' :: more)) {text rest : Text}
    (below : text.length ≤ bound) (spells : Spells (Expr.call name arguments).lexemes text rest) :
    readCall inner text = .done (.call name arguments) rest := by
  obtain ⟨afterName, named, inside⟩ := spells
  obtain ⟨start, mid, opened, spelled, closed⟩ := Lexeme.spells_parenthesized_iff.mp inside
  have afterShorter := identifier_shorter named
  have startShorter := symbol_shorter opened (by simp)
  obtain ⟨-, closing, rfl, -⟩ := symbol_eq_done_iff.mp closed
  rw [lexemesOfAll_eq_map] at spelled
  have listed : optional (commaSeparated inner) start =
      .done (if arguments = [] then none else some arguments) (')' :: closing) := by
    split
    · next none_ =>
      subst none_
      obtain rfl : start = ')' :: closing := spelled
      exact optional_of_fails ((closes closing (by omega)).bind _)
    · next some_ =>
      refine optional_of_done (commaSeparated_of_spells some_ spelled (by simp) ?_)
      intro argument member start' mid' le spelledOne follows
      apply each argument member start' mid' (by omega) spelledOne
      rcases follows with rfl | ⟨behind, rfl⟩
      · exact stops_closing closing 0
      · exact stops_comma behind 0
  have inParentheses := parenthesized_eq_done_iff.mpr ⟨start, ')' :: closing, opened, listed, closed⟩
  refine (bind_of_done named _).trans ((bind_of_done inParentheses _).trans ?_)
  split
  · next none_ => rw [none_]; rfl
  · rfl

end Expr

end BulkSql
