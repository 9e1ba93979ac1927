import BulkSql.Proofs.Syntax.Primaries

/-! # Reading spelled expressions

A text that spells the lexemes of a well-shaped tree is read as this tree. The proof goes over the tree: an operand
from the left leaves its level open, so that the operator behind it is the next thing the level goes on with, and
every other operand is closed off by what stands behind it.
-/

namespace BulkSql

namespace Expr

open Reader

variable {inner : Reader Expr} {bound : Nat}

/-! ## One operator more -/

section Operators

variable {left right : Expr} {mid after rest : Text}

theorem furtherOperand_of_done {α : Type} {operator : Reader α} {reader : Reader Expr} {op : α}
    (read : operator mid = .done op after) (done : reader after = .done right rest) :
    furtherOperand operator reader mid = .done (op, right) rest :=
  (bind_of_done read _).trans (bind_of_done done _)

theorem goOn_logical {op : LogicalOp} (read : keyword op.keyword mid = .done () after)
    (done : levelReader inner (op.rank + 1) after = .done right rest) (shorter : rest.length < mid.length) :
    goOn inner op.rank left mid = goOn inner op.rank (.logical op left right) rest := by
  have found : logicalOperator op.keyword op mid = .done op after := bind_of_done read _
  cases op with
  | or => exact extend_of_done (furtherOperand_of_done found done) shorter _ _
  | xor => exact extend_of_done (furtherOperand_of_done found done) shorter _ _
  | and => exact extend_of_done (furtherOperand_of_done found done) shorter _ _

theorem goOn_arithmetic {op : ArithmeticOp} (read : symbol op.text mid = .done op.text after)
    (done : levelReader inner (op.rank + 1) after = .done right rest) (shorter : rest.length < mid.length) :
    goOn inner op.rank left mid = goOn inner op.rank (.arithmetic op left right) rest := by
  cases op with
  | add | subtract => exact extend_of_done (furtherOperand_of_done (sumOperator_eq_done_iff.mpr ⟨rfl, read⟩) done) shorter _ _
  | multiply | divide | modulo =>
    exact extend_of_done (furtherOperand_of_done (productOperator_eq_done_iff.mpr ⟨rfl, read⟩) done) shorter _ _

theorem goOn_comparison {op : ComparisonOp} (read : comparisonOperator mid = .done op after)
    (done : levelReader inner 5 after = .done right rest) :
    goOn inner 4 left mid = .done (.comparison op left right) rest :=
  bind_of_done (optional_of_done (furtherOperand_of_done read done)) _

theorem goOn_cast {type : Text} (spells : Spells [.symbol [':', ':'], .type type] mid rest) :
    goOn inner 8 left mid = goOn inner 8 (.cast left type) rest := by
  obtain ⟨behind, colons, _, named, rfl⟩ := spells
  have marked : castMark mid = .done type _ := (bind_of_done colons _).trans named
  have shorter := symbol_shorter colons (by simp)
  have le := Lexeme.Reads.length_le named
  exact extend_of_done marked (by omega) _ _

theorem goOn_isNull {negated : Bool}
    (spells : Spells (.keyword .IS :: if negated then [.keyword .NOT, .keyword .NULL] else [.keyword .NULL]) mid rest) :
    goOn inner 3 left mid = goOn inner 3 (.isNull left negated) rest := by
  obtain ⟨behind, is, test⟩ := spells
  have shorter := Lexeme.Reads.shorter is trivial
  have le := test.length_le
  have marked : nullTest mid = .done negated rest := by
    cases negated with
    | true =>
      obtain ⟨_, not_, _, null, rfl⟩ := test
      exact (bind_of_done is _).trans ((bind_of_done (optional_of_done not_) _).trans (bind_of_done null _))
    | false =>
      obtain ⟨_, null, rfl⟩ := test
      have plain : Fails (keyword .NOT) behind := by
        apply fails_keyword
        rw [(keyword_eq_done_iff.mp null).1]
        simp
      exact (bind_of_done is _).trans ((bind_of_done (optional_of_fails plain) _).trans (bind_of_done null _))
  exact extend_of_done marked (by omega) _ _

end Operators

/-! ## What starts with an operator -/

section Starts

variable {mid after : Text}

theorem nextRank?_of_logical {op : LogicalOp} (read : keyword op.keyword mid = .done () after) :
    nextRank? mid = some op.rank := by
  refine (nextRank?_of_keyword (keyword_eq_done_iff.mp read).1).trans ?_
  cases op <;> rfl

theorem nextRank?_of_arithmetic {op : ArithmeticOp} (read : symbol op.text mid = .done op.text after) :
    nextRank? mid = some op.rank := by
  obtain ⟨-, behind, rfl, -⟩ := symbol_eq_done_iff.mp read
  cases op <;> rfl

theorem nextRank?_of_comparison {op : ComparisonOp} (read : comparisonOperator mid = .done op after) :
    nextRank? mid = some 4 := by
  obtain ⟨written, behind, member, rfl, -⟩ := spelling_of_comparisonOperator read
  simp only [comparisonSpellings, List.mem_cons, Prod.mk.injEq, List.not_mem_nil, or_false] at member
  rcases member with ⟨rfl, -⟩ | ⟨rfl, -⟩ | ⟨rfl, -⟩ | ⟨rfl, -⟩ | ⟨rfl, -⟩ | ⟨rfl, -⟩ | ⟨rfl, -⟩ <;> rfl

end Starts

/-! ## Trees -/

/-- A tree is read back at its own level: as it stands where the text stops, and else as a left operand. -/
structure LevelReadsBack (inner : Reader Expr) (bound : Nat) (tree : Expr) : Prop where
  closed : ∀ text rest, text.length ≤ bound → Spells tree.lexemes text rest → Stops tree.rank rest →
    levelReader inner tree.rank text = .done tree rest
  opened : Chains tree.rank → ∀ text rest, text.length ≤ bound → Spells tree.lexemes text rest →
    Stops (tree.rank + 1) rest → levelReader inner tree.rank text = goOn inner tree.rank tree rest

namespace LevelReadsBack

variable {tree left right : Expr}

theorem of_opened (opened : ∀ text rest, text.length ≤ bound → Spells tree.lexemes text rest →
      Stops (tree.rank + 1) rest → levelReader inner tree.rank text = goOn inner tree.rank tree rest) :
    LevelReadsBack inner bound tree where
  closed text rest below spells stops :=
    (opened text rest below spells (stops.mono (Nat.le_succ _))).trans (stops.goOn inner tree)
  opened _ := opened

theorem of_closed (closed : ∀ text rest, text.length ≤ bound → Spells tree.lexemes text rest → Stops tree.rank rest →
      levelReader inner tree.rank text = .done tree rest) (single : ¬Chains tree.rank) :
    LevelReadsBack inner bound tree where
  closed := closed
  opened chains := absurd chains single

section Levels

variable (back : LevelReadsBack inner bound tree) (shaped : tree.Shaped) {level : Nat} {text rest : Text}
  (below : text.length ≤ bound) (spells : Spells tree.lexemes text rest)

include back shaped below spells

/-- A tree is read at every level up to its own. -/
theorem at_level (le : level ≤ tree.rank) (stops : Stops level rest) :
    levelReader inner level text = .done tree rest := by
  apply levelReader_of_closer le tree.rank_le (back.closed text rest below spells (stops.mono le)) stops
  intro close
  obtain ⟨c, more, rfl, starts⟩ := startsOperand_of_spells shaped close spells
  exact clear_isSign_of_startsOperand starts more

/-- A left operand is read and its level goes on. -/
theorem goes_on (chains : Chains level) (le : level ≤ tree.rank) (stops : Stops (level + 1) rest) :
    levelReader inner level text = goOn inner level tree rest := by
  rcases Nat.eq_or_lt_of_le le with rfl | lt
  · exact back.opened chains text rest below spells stops
  · exact levelReader_of_done chains.lt chains.ne_sign (back.at_level shaped below spells lt stops)

end Levels

section Binary

variable (backLeft : LevelReadsBack inner bound left) (backRight : LevelReadsBack inner bound right)
  (shapedLeft : left.Shaped) (shapedRight : right.Shaped)

include backLeft backRight shapedLeft shapedRight

theorem logical {op : LogicalOp} (closeLeft : op.rank ≤ left.rank) (closeRight : op.rank < right.rank) :
    LevelReadsBack inner bound (.logical op left right) := by
  apply of_opened
  intro text rest below spells stops
  obtain ⟨mid, spelledLeft, after, read, spelledRight⟩ := spells_append_iff.mp spells
  have le := spelledLeft.length_le
  have shorter := Lexeme.Reads.shorter read trivial
  have stopsLeft : Stops (op.rank + 1) mid := stops_of_nextRank? (nextRank?_of_logical read) (Nat.lt_succ_self _)
  change levelReader inner op.rank text = goOn inner op.rank _ rest
  rw [backLeft.goes_on shapedLeft below spelledLeft (chains_rank_logical op) closeLeft stopsLeft]
  apply goOn_logical read (backRight.at_level shapedRight (by omega) spelledRight closeRight stops)
  exact Nat.lt_of_le_of_lt spelledRight.length_le shorter

theorem arithmetic {op : ArithmeticOp} (closeLeft : op.rank ≤ left.rank) (closeRight : op.rank < right.rank) :
    LevelReadsBack inner bound (.arithmetic op left right) := by
  apply of_opened
  intro text rest below spells stops
  obtain ⟨mid, spelledLeft, after, read, spelledRight⟩ := spells_append_iff.mp spells
  have le := spelledLeft.length_le
  have shorter := symbol_shorter read (by cases op <;> simp [ArithmeticOp.text])
  have stopsLeft : Stops (op.rank + 1) mid := stops_of_nextRank? (nextRank?_of_arithmetic read) (Nat.lt_succ_self _)
  change levelReader inner op.rank text = goOn inner op.rank _ rest
  rw [backLeft.goes_on shapedLeft below spelledLeft (chains_rank_arithmetic op) closeLeft stopsLeft]
  apply goOn_arithmetic read (backRight.at_level shapedRight (by omega) spelledRight closeRight stops)
  exact Nat.lt_of_le_of_lt spelledRight.length_le shorter

theorem comparison {op : ComparisonOp} (closeLeft : 4 < left.rank) (closeRight : 4 < right.rank) :
    LevelReadsBack inner bound (.comparison op left right) := by
  refine of_closed (fun text rest below spells stops => ?_) (by simp [rank, Chains])
  obtain ⟨mid, spelledLeft, after, read, spelledRight⟩ := spells_append_iff.mp spells
  have le := spelledLeft.length_le
  have shorter := Lexeme.Reads.shorter read trivial
  have stopsLeft : Stops 5 mid := stops_of_nextRank? (nextRank?_of_comparison read) (Nat.lt_succ_self _)
  have readLeft := backLeft.at_level shapedLeft below spelledLeft closeLeft stopsLeft
  have readRight := backRight.at_level shapedRight (by omega) spelledRight closeRight (stops.mono (Nat.le_succ _))
  exact (levelReader_of_done (by decide) (by decide) readLeft).trans (goOn_comparison read readRight)

end Binary

section Unary

variable (back : LevelReadsBack inner bound tree) (shaped : tree.Shaped)

include back shaped

theorem signed {sign : Sign} (close : 7 ≤ tree.rank) : LevelReadsBack inner bound (.signed sign tree) := by
  refine of_closed (fun text rest below spells stops => ?_) (by simp [rank, Chains])
  obtain ⟨mid, read, spelled⟩ := spells
  have shorter := symbol_shorter read (by cases sign <;> simp [Sign.text])
  have readInner := back.at_level shaped (by omega) spelled close stops
  exact signsBefore_of_done (signOperator_eq_done_iff.mpr read) shorter readInner

theorem cast {type : Text} (close : 8 ≤ tree.rank) : LevelReadsBack inner bound (.cast tree type) := by
  apply of_opened
  intro text rest below spells stops
  obtain ⟨mid, spelled, marks⟩ := spells_append_iff.mp spells
  have stopsInner : Stops 9 mid := by
    obtain ⟨_, colons, -⟩ := marks
    obtain ⟨-, behind, rfl, -⟩ := symbol_eq_done_iff.mp colons
    exact stops_of_nextRank? rfl (by decide)
  have chains : Chains 8 := by simp [Chains]
  exact (back.goes_on shaped below spelled chains close stopsInner).trans (goOn_cast marks)

theorem isNull {negated : Bool} (close : 3 ≤ tree.rank) : LevelReadsBack inner bound (.isNull tree negated) := by
  apply of_opened
  intro text rest below spells stops
  obtain ⟨mid, spelled, marks⟩ := spells_append_iff.mp spells
  have stopsInner : Stops 4 mid := by
    obtain ⟨_, is, -⟩ := marks
    exact stops_of_nextRank? (nextRank?_of_keyword (keyword_eq_done_iff.mp is).1) (by decide)
  have chains : Chains 3 := by simp [Chains]
  exact (back.goes_on shaped below spelled chains close stopsInner).trans (goOn_isNull marks)

end Unary

/-- A primary expression is read by the branch for its kind. -/
theorem of_primary (primary : ∀ text rest, text.length ≤ bound → Spells tree.lexemes text rest → Stops 9 rest →
      primaryLevel inner text = .done tree rest) (rank : tree.rank = 9) : LevelReadsBack inner bound tree := by
  refine of_closed (fun text rest below spells stops => ?_) (by simp [rank, Chains])
  rw [rank] at stops ⊢
  exact primary text rest below spells stops

end LevelReadsBack

/-- A reader does what another one does on texts below a length. -/
def AgreesBelow (inner reader : Reader Expr) (bound : Nat) : Prop :=
  ∀ text, text.length < bound → inner text = reader text

theorem agreesBelow_guarded (reader : Reader Expr) (text : Text) :
    AgreesBelow (guarded reader text) reader text.length :=
  fun _ shorter => guarded_of_lt reader shorter

theorem read_eq (text : Text) : read text = levelReader (guarded read text) 0 text := recursive_apply ..

/-- A tree that is read back at its level with every reader for its parts is read back. -/
theorem readsBack_of_level {tree : Expr} (shaped : tree.Shaped)
    (back : ∀ {inner bound}, AgreesBelow inner read bound → LevelReadsBack inner bound tree)
    (same : AgreesBelow inner read bound) :
    ReadsBack inner bound tree := by
  intro text rest below spells stops
  rw [same text below, read_eq]
  exact (back (agreesBelow_guarded read text)).at_level shaped (Nat.le_refl _) spells (Nat.zero_le _) stops

theorem levelReadsBack {tree : Expr} (shaped : tree.Shaped) {inner : Reader Expr} {bound : Nat}
    (same : AgreesBelow inner read bound) : LevelReadsBack inner bound tree := by
  induction shaped generalizing inner bound with
  | placeholder =>
    refine .of_primary (fun text rest below spells stops => ?_) rfl
    exact firstOf_of_done (spells_singleton_iff.mp spells)
  | literal written =>
    refine .of_primary (fun text rest below spells stops => ?_) rfl
    have read := spells_singleton_iff.mp spells
    exact firstOf_of_fails (fails_readPlaceholder_of_literal read) (firstOf_of_done read)
  | column reference =>
    refine .of_primary (fun text rest below spells stops => ?_) rfl
    obtain ⟨noMark, noLiteral⟩ := fails_constants_of_dotted spells
    refine firstOf_of_fails noMark (firstOf_of_fails noLiteral ?_)
    exact firstOf_of_fails (fails_readCall_of_dotted spells stops) (firstOf_of_done (readColumn_of_spells spells stops))
  | @call name arguments each ih =>
    refine .of_primary (fun text rest below spells stops => ?_) rfl
    obtain ⟨noMark, noLiteral⟩ := fails_constants_of_identifier spells.choose_spec.1
    refine firstOf_of_fails noMark (firstOf_of_fails noLiteral (firstOf_of_done ?_))
    refine readCall_of_spells (fun argument member => ?_) (fun more lt => ?_) below spells
    · exact readsBack_of_level (each argument member) (fun same => ih argument member same) same
    · rw [Fails, same _ lt]
      exact fails_read_closing more
  | nested shaped ih =>
    refine .of_primary (fun text rest below spells stops => ?_) rfl
    obtain ⟨noMark, noLiteral, noName⟩ := fails_constants_of_nested spells
    refine firstOf_of_fails noMark (firstOf_of_fails noLiteral ?_)
    refine firstOf_of_fails (noName.bind _) (firstOf_of_fails ((noName.bind _).bind _) (firstOf_of_done ?_))
    exact readNested_of_spells (readsBack_of_level shaped (fun same => ih same) same) below spells
  | cast type shaped close ih => exact (ih same).cast shaped close
  | signed sign shaped close ih => exact (ih same).signed shaped close
  | arithmetic op shapedLeft shapedRight closeLeft closeRight ihLeft ihRight =>
    exact (ihLeft same).arithmetic (ihRight same) shapedLeft shapedRight closeLeft closeRight
  | comparison op shapedLeft shapedRight closeLeft closeRight ihLeft ihRight =>
    exact (ihLeft same).comparison (ihRight same) shapedLeft shapedRight closeLeft closeRight
  | logical op shapedLeft shapedRight closeLeft closeRight ihLeft ihRight =>
    exact (ihLeft same).logical (ihRight same) shapedLeft shapedRight closeLeft closeRight
  | isNull negated shaped close ih => exact (ih same).isNull shaped close

/-- A text that spells a well-shaped tree and stops is read as the tree. -/
theorem read_of_spells {tree : Expr} (shaped : tree.Shaped) {text rest : Text} (spells : Spells tree.lexemes text rest)
    (stops : Stops 0 rest) : read text = .done tree rest := by
  rw [read_eq]
  have back := levelReadsBack shaped (agreesBelow_guarded read text)
  exact back.at_level shaped (Nat.le_refl _) spells (Nat.zero_le _) stops

end Expr

end BulkSql
