import BulkSql.Proofs.Syntax.Completeness

/-! # Read expressions are spelled

What is read as an expression has the shape of the grammar and spells its lexemes, so nothing of the text but layout is
missing in the tree. One step per operator: a mark behind a left operand, or a sign in front, extends what was spelled.
-/

namespace BulkSql

namespace Expr

open Reader

variable {inner : Reader Expr}

/-- A text is covered by a well-shaped tree of a level or a closer one. -/
structure Covers (level : Nat) (tree : Expr) (text rest : Text) : Prop where
  shaped : tree.Shaped
  close : level ≤ tree.rank
  spells : Spells tree.lexemes text rest

namespace Covers

variable {level : Nat} {tree left right : Expr} {text mid after rest : Text}

theorem mono {closer : Nat} (covers : Covers closer tree text rest) (le : level ≤ closer) :
    Covers level tree text rest :=
  ⟨covers.shaped, Nat.le_trans le covers.close, covers.spells⟩

theorem logical {op : LogicalOp} (before : Covers op.rank left text mid)
    (read : keyword op.keyword mid = .done () after)
    (behind : Covers (op.rank + 1) right after rest) : Covers op.rank (.logical op left right) text rest where
  shaped := .logical op before.shaped behind.shaped before.close behind.close
  close := Nat.le_refl _
  spells := before.spells.append ⟨after, read, behind.spells⟩

theorem arithmetic {op : ArithmeticOp} (before : Covers op.rank left text mid)
    (read : symbol op.text mid = .done op.text after) (behind : Covers (op.rank + 1) right after rest) :
    Covers op.rank (.arithmetic op left right) text rest where
  shaped := .arithmetic op before.shaped behind.shaped before.close behind.close
  close := Nat.le_refl _
  spells := before.spells.append ⟨after, read, behind.spells⟩

theorem comparison {op : ComparisonOp} (before : Covers 5 left text mid)
    (read : comparisonOperator mid = .done op after)
    (behind : Covers 5 right after rest) : Covers 4 (.comparison op left right) text rest where
  shaped := .comparison op before.shaped behind.shaped before.close behind.close
  close := Nat.le_refl _
  spells := before.spells.append ⟨after, read, behind.spells⟩

theorem signed {sign : Sign} (read : symbol sign.text text = .done sign.text mid) (behind : Covers 7 tree mid rest) :
    Covers 7 (.signed sign tree) text rest where
  shaped := .signed sign behind.shaped behind.close
  close := Nat.le_refl _
  spells := ⟨mid, read, behind.spells⟩

theorem cast {type : Text} (before : Covers 8 tree text mid) (marked : castMark mid = .done type rest) :
    Covers 8 (.cast tree type) text rest := by
  obtain ⟨colons, after, read, named⟩ := bind_eq_done_iff.mp marked
  obtain ⟨rfl, -⟩ := symbol_eq_done_iff.mp read
  exact ⟨.cast type before.shaped before.close, Nat.le_refl _, before.spells.append ⟨after, read, rest, named, rfl⟩⟩

theorem isNull {negated : Bool} (before : Covers 3 tree text mid) (marked : nullTest mid = .done negated rest) :
    Covers 3 (.isNull tree negated) text rest := by
  obtain ⟨_, behind, is, done⟩ := bind_eq_done_iff.mp marked
  obtain ⟨negation?, after, optional, done⟩ := bind_eq_done_iff.mp done
  obtain ⟨_, last, null, done⟩ := bind_eq_done_iff.mp done
  cases done
  refine ⟨.isNull _ before.shaped before.close, Nat.le_refl _, before.spells.append ⟨behind, is, ?_⟩⟩
  rcases optional_eq_done_iff.mp optional with ⟨_, read, rfl⟩ | ⟨-, rfl, rfl⟩
  · exact ⟨after, read, rest, null, rfl⟩
  · exact ⟨rest, null, rfl⟩

end Covers

/-! ## Levels -/

/-- What a reader reads is covered. -/
def ReadsCovered (reader : Reader Expr) (level : Nat) : Prop :=
  ∀ text tree rest, reader text = .done tree rest → Covers level tree text rest

theorem extend_logical_covers (op : LogicalOp) {next : Reader Expr} (sound : ReadsCovered next (op.rank + 1))
    {left tree : Expr} {text mid rest : Text} (before : Covers op.rank left text mid)
    (done : extend (furtherOperand (logicalOperator op.keyword op) next)
      (fun left pair => .logical pair.1 left pair.2) left mid = .done tree rest) :
    Covers op.rank tree text rest := by
  refine extend_induction (fun value behind => Covers op.rank value text behind) ?_ before done
  intro value start pair behind covered marked
  obtain ⟨found, after, read, marked⟩ := bind_eq_done_iff.mp marked
  obtain ⟨right, last, readRight, built⟩ := bind_eq_done_iff.mp marked
  obtain ⟨_, _, word, same⟩ := bind_eq_done_iff.mp read
  cases built
  cases same
  exact covered.logical word (sound _ _ _ readRight)

theorem extend_arithmetic_covers {level : Nat} {operator : Reader ArithmeticOp} {next : Reader Expr}
    (sound : ReadsCovered next (level + 1))
    (symbols : ∀ {text op rest}, operator text = .done op rest ↔ op.rank = level ∧ symbol op.text text = .done op.text rest)
    {left tree : Expr} {text mid rest : Text} (before : Covers level left text mid)
    (done : extend (furtherOperand operator next) (fun left pair => .arithmetic pair.1 left pair.2) left mid =
      .done tree rest) : Covers level tree text rest := by
  refine extend_induction (fun value behind => Covers level value text behind) ?_ before done
  intro value start pair behind covered marked
  obtain ⟨op, after, read, marked⟩ := bind_eq_done_iff.mp marked
  obtain ⟨right, last, readRight, built⟩ := bind_eq_done_iff.mp marked
  cases built
  obtain ⟨rfl, read⟩ := symbols.mp read
  exact covered.arithmetic read (sound _ _ _ readRight)

/-- Going on behind an expression covers what it takes. -/
theorem goOn_covers {level : Nat} (sound : ReadsCovered (levelReader inner (level + 1)) (level + 1)) {left tree : Expr}
    {text mid rest : Text} (before : Covers (level + 1) left text mid)
    (done : goOn inner level left mid = .done tree rest) :
    Covers level tree text rest := by
  have weaker := before.mono (Nat.le_succ level)
  match level with
  | 0 => exact extend_logical_covers .or sound weaker done
  | 1 => exact extend_logical_covers .xor sound weaker done
  | 2 => exact extend_logical_covers .and sound weaker done
  | 3 =>
    refine extend_induction (fun value behind => Covers 3 value text behind) ?_ weaker done
    intro value start negated behind covered marked
    exact covered.isNull marked
  | 4 =>
    obtain ⟨pair?, behind, optional, built⟩ := bind_eq_done_iff.mp done
    rcases optional_eq_done_iff.mp optional with ⟨pair, marked, rfl⟩ | ⟨-, rfl, rfl⟩
    · obtain ⟨op, after, read, marked⟩ := bind_eq_done_iff.mp marked
      obtain ⟨right, last, readRight, same⟩ := bind_eq_done_iff.mp marked
      cases same
      cases built
      exact before.comparison read (sound _ _ _ readRight)
    · cases built
      exact weaker
  | 5 => exact extend_arithmetic_covers sound sumOperator_eq_done_iff weaker done
  | 6 => exact extend_arithmetic_covers sound productOperator_eq_done_iff weaker done
  | 7 => cases done; exact weaker
  | 8 =>
    refine extend_induction (fun value behind => Covers 8 value text behind) ?_ weaker done
    intro value start type behind covered marked
    exact covered.cast marked
  | more + 9 => cases done; exact weaker

/-! ## Primary expressions -/

section Parts

variable {good : Expr → Prop}
  (sound : ∀ text tree rest, inner text = .done tree rest → good tree ∧ Spells tree.lexemes text rest)
  {text rest : Text} {tree : Expr}

include sound

theorem spells_of_readCall (done : readCall inner text = .done tree rest) :
    ∃ name arguments, tree = .call name arguments ∧ (∀ argument ∈ arguments, good argument) ∧
      Spells tree.lexemes text rest := by
  obtain ⟨name, afterName, named, done⟩ := bind_eq_done_iff.mp done
  obtain ⟨arguments?, behind, inParentheses, built⟩ := bind_eq_done_iff.mp done
  cases built
  obtain ⟨start, mid, opened, optional, closed⟩ := parenthesized_eq_done_iff.mp inParentheses
  have listed : (∀ argument ∈ arguments?.getD [], good argument) ∧
      Spells (Lexeme.commaList ((arguments?.getD []).map lexemes)) start mid := by
    rcases optional_eq_done_iff.mp optional with ⟨arguments, read, rfl⟩ | ⟨-, rfl, rfl⟩
    · exact (spells_of_commaSeparated good read fun start' value mid' _ readOne => sound _ _ _ readOne).2
    · exact ⟨by simp, rfl⟩
  refine ⟨name, _, rfl, listed.1, afterName, named, ?_⟩
  rw [lexemesOfAll_eq_map]
  exact Lexeme.spells_parenthesized_iff.mpr ⟨start, mid, opened, listed.2, closed⟩

theorem spells_of_readNested (done : readNested inner text = .done tree rest) :
    ∃ value, tree = .nested value ∧ good value ∧ Spells tree.lexemes text rest := by
  obtain ⟨value, behind, inParentheses, built⟩ := bind_eq_done_iff.mp done
  cases built
  obtain ⟨start, mid, opened, read, closed⟩ := parenthesized_eq_done_iff.mp inParentheses
  obtain ⟨fine, spelled⟩ := sound _ _ _ read
  exact ⟨value, rfl, fine, Lexeme.spells_parenthesized_iff.mpr ⟨start, mid, opened, spelled, closed⟩⟩

end Parts

theorem spells_of_readDotted {text rest : Text} {qualifier? : Option Text} {name : Text}
    (done : readDotted text = .done (qualifier?, name) rest) : Spells (Lexeme.dotted qualifier? name) text rest := by
  obtain ⟨first, afterFirst, named, done⟩ := bind_eq_done_iff.mp done
  obtain ⟨second?, behind, optional, built⟩ := bind_eq_done_iff.mp done
  rcases optional_eq_done_iff.mp optional with ⟨second, read, rfl⟩ | ⟨-, rfl, rfl⟩
  · cases built
    obtain ⟨dot, after, symbolRead, secondRead⟩ := bind_eq_done_iff.mp read
    obtain ⟨rfl, -⟩ := symbol_eq_done_iff.mp symbolRead
    exact ⟨afterFirst, named, after, symbolRead, rest, secondRead, rfl⟩
  · cases built
    exact ⟨rest, named, rfl⟩

theorem covers_of_primaryLevel (sound : ReadsCovered inner 0) : ReadsCovered (primaryLevel inner) 9 := by
  intro text tree rest done
  have parts (text : Text) (tree : Expr) (rest : Text) (read : inner text = .done tree rest) :=
    And.intro (sound text tree rest read).shaped (sound text tree rest read).spells
  obtain ⟨reader, member, read⟩ := exists_of_firstOf done
  simp only [List.mem_cons, List.not_mem_nil, or_false] at member
  rcases member with rfl | rfl | rfl | rfl | rfl
  · obtain ⟨rfl, -⟩ := readPlaceholder_eq_done_iff.mp read
    exact ⟨.placeholder, Nat.le_refl _, spells_singleton_iff.mpr read⟩
  · obtain ⟨written, rfl, -⟩ := isReadAs_of_readLiteral read
    exact ⟨.literal written, Nat.le_refl _, spells_singleton_iff.mpr read⟩
  · obtain ⟨name, arguments, rfl, each, spells⟩ := spells_of_readCall parts read
    exact ⟨.call name each, Nat.le_refl _, spells⟩
  · obtain ⟨⟨qualifier?, name⟩, behind, dotted, built⟩ := bind_eq_done_iff.mp read
    cases built
    exact ⟨.column _, Nat.le_refl _, spells_of_readDotted dotted⟩
  · obtain ⟨value, rfl, shaped, spells⟩ := spells_of_readNested parts read
    exact ⟨.nested shaped, Nat.le_refl _, spells⟩

/-- Every level covers what it reads. -/
theorem covers_of_levelReader (sound : ReadsCovered inner 0) (level : Nat) (le : level ≤ 9) :
    ReadsCovered (levelReader inner level) level := by
  rcases Nat.eq_or_lt_of_le le with rfl | lt
  · exact covers_of_primaryLevel sound
  · have next := covers_of_levelReader sound (level + 1) lt
    intro text tree rest done
    by_cases signs : level = 7
    · subst signs
      refine signsBefore_induction (fun start value => Covers 7 value start rest) ?_ ?_ done
      · exact fun start value read => (next start value rest read).mono (Nat.le_succ 7)
      · exact fun start sign mid value read behind => behind.signed (signOperator_eq_done_iff.mp read)
    · rw [levelReader_eq_bind lt signs] at done
      obtain ⟨left, mid, read, more⟩ := bind_eq_done_iff.mp done
      exact goOn_covers next (next text left mid read) more
termination_by 9 - level

/-- What is read as an expression is well-shaped and spelled. -/
theorem covers_of_read : ReadsCovered read 0 := by
  intro text tree rest done
  refine recursive_induction (fun text tree rest => Covers 0 tree text rest) (fun inner sound => ?_) done
  exact covers_of_levelReader sound 0 (Nat.zero_le 9)

end Expr

end BulkSql
