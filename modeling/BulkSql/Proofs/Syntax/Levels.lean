import BulkSql.Proofs.Syntax.Grammar

/-! # Readers by level

The grammar of expressions as one family of readers. Except for signs, each level reads an expression of the next one
and then goes on behind it. Where a text stops, no level goes on.
-/

namespace BulkSql

namespace Expr

open Reader

variable {inner : Reader Expr}

/-! ## Levels -/

/-- The reader for expressions of a level or of a closer one. -/
def levelReader (inner : Reader Expr) : Nat → Reader Expr
  | 0 => orLevel inner
  | 1 => xorLevel inner
  | 2 => andLevel inner
  | 3 => nullTestLevel inner
  | 4 => comparisonLevel inner
  | 5 => sumLevel inner
  | 6 => productLevel inner
  | 7 => signLevel inner
  | 8 => readCasts (primaryLevel inner)
  | _ => primaryLevel inner

/-- Go on behind an expression with the operators of a level. -/
def goOn (inner : Reader Expr) (level : Nat) (left : Expr) : Reader Expr :=
  match level with
  | 0 =>
    extend (furtherOperand (logicalOperator .OR .or) (xorLevel inner)) (fun left (op, right) => .logical op left right)
      left
  | 1 =>
    extend (furtherOperand (logicalOperator .XOR .xor) (andLevel inner)) (fun left (op, right) => .logical op left right)
      left
  | 2 =>
    extend (furtherOperand (logicalOperator .AND .and) (nullTestLevel inner))
      (fun left (op, right) => .logical op left right) left
  | 3 => extend nullTest .isNull left
  | 4 => do
    match ← optional (furtherOperand comparisonOperator (sumLevel inner)) with
    | some (op, right) => pure (.comparison op left right)
    | none => pure left
  | 5 => extend (furtherOperand sumOperator (productLevel inner)) (fun left (op, right) => .arithmetic op left right) left
  | 6 => extend (furtherOperand productOperator (signLevel inner)) (fun left (op, right) => .arithmetic op left right) left
  | 8 => extend castMark .cast left
  | _ => pure left

/-- The levels whose operators go on from the left. -/
def Chains (level : Nat) : Prop := level ∈ [0, 1, 2, 3, 5, 6, 8]

theorem Chains.lt {level : Nat} (chains : Chains level) : level < 9 := by
  simp only [Chains, List.mem_cons, List.not_mem_nil, or_false] at chains
  omega

theorem Chains.ne_sign {level : Nat} (chains : Chains level) : level ≠ 7 := by
  rintro rfl
  simp [Chains] at chains

theorem chains_rank_logical (op : LogicalOp) : Chains op.rank := by cases op <;> simp [Chains, LogicalOp.rank]

theorem chains_rank_arithmetic (op : ArithmeticOp) : Chains op.rank := by cases op <;> simp [Chains, ArithmeticOp.rank]

/-- A level reads the next one and goes on. -/
theorem levelReader_eq_bind {level : Nat} (lt : level < 9) (unsigned : level ≠ 7) :
    levelReader inner level = levelReader inner (level + 1) >>= goOn inner level := by
  match level with
  | 0 | 1 | 2 | 3 | 4 | 5 | 6 | 8 => rfl
  | 7 => exact absurd rfl unsigned
  | more + 9 => omega

theorem levelReader_of_done {level : Nat} (lt : level < 9) (unsigned : level ≠ 7) {text mid : Text} {left : Expr}
    (done : levelReader inner (level + 1) text = .done left mid) :
    levelReader inner level text = goOn inner level left mid := by
  rw [levelReader_eq_bind lt unsigned]
  exact bind_of_done done _

/-! ## Where nothing goes on -/

section Stops

variable {text : Text}

theorem Stops.not_keyword {level next : Nat} (stops : Stops level text) {keyword : Keyword}
    (known : (match some keyword with
      | some .IS => some 3
      | some .AND => some 2
      | some .XOR => some 1
      | some .OR => some 0
      | _ => none) = some next) (le : level ≤ next) : Keyword.lookup? (leadWord text) ≠ some keyword := by
  intro found
  have := stops next ((nextRank?_of_keyword found).trans known)
  omega

theorem Stops.not_prefix {level next : Nat} (stops : Stops level text) {symbol : Text} (le : level ≤ next)
    (known : ∀ rest, nextRank? (symbol ++ rest) = some next) : ¬symbol <+: text := by
  rintro ⟨rest, rfl⟩
  have := stops next (known rest)
  omega

theorem fails_furtherOperand {α : Type} {operator : Reader α} (fails : Fails operator text) (right : Reader Expr) :
    Fails (furtherOperand operator right) text := fails.bind _

theorem fails_logicalOperator {word : Keyword} (other : Keyword.lookup? (leadWord text) ≠ some word) (op : LogicalOp) :
    Fails (logicalOperator word op) text := (fails_keyword other).bind _

theorem Stops.fails_sumOperator (stops : Stops 5 text) : Fails sumOperator text := by
  apply fails_firstOf
  intro reader member
  simp only [List.mem_cons, List.not_mem_nil, or_false] at member
  rcases member with rfl | rfl
  · exact fails_operator (stops.not_prefix (Nat.le_refl _) fun _ => rfl)
  · exact fails_operator (stops.not_prefix (Nat.le_refl _) fun _ => rfl)

theorem Stops.fails_productOperator (stops : Stops 6 text) : Fails productOperator text := by
  apply fails_firstOf
  intro reader member
  simp only [List.mem_cons, List.not_mem_nil, or_false] at member
  rcases member with rfl | rfl | rfl
  · exact fails_operator (stops.not_prefix (Nat.le_refl _) fun _ => rfl)
  · exact fails_operator (stops.not_prefix (Nat.le_refl _) fun _ => rfl)
  · exact fails_operator (stops.not_prefix (Nat.le_refl _) fun _ => rfl)

theorem Stops.fails_comparisonOperator (stops : Stops 4 text) : Fails comparisonOperator text := by
  apply fails_firstOf
  intro reader member
  simp only [List.mem_cons, List.not_mem_nil, or_false] at member
  rcases member with rfl | rfl | rfl | rfl | rfl | rfl | rfl <;>
    exact fails_operator (stops.not_prefix (Nat.le_refl _) fun _ => rfl)

/-- Where a text stops, its level does not go on. -/
theorem Stops.goOn {level : Nat} (stops : Stops level text) (inner : Reader Expr) (left : Expr) :
    goOn inner level left text = .done left text := by
  match level with
  | 0 => exact extend_of_fails (fails_furtherOperand (fails_logicalOperator (stops.not_keyword rfl (Nat.le_refl _)) _) _) _ _
  | 1 => exact extend_of_fails (fails_furtherOperand (fails_logicalOperator (stops.not_keyword rfl (Nat.le_refl _)) _) _) _ _
  | 2 => exact extend_of_fails (fails_furtherOperand (fails_logicalOperator (stops.not_keyword rfl (Nat.le_refl _)) _) _) _ _
  | 3 => exact extend_of_fails ((fails_keyword (stops.not_keyword rfl (Nat.le_refl _))).bind _) _ _
  | 4 => exact bind_of_done (optional_of_fails (fails_furtherOperand stops.fails_comparisonOperator _)) _
  | 5 => exact extend_of_fails (fails_furtherOperand stops.fails_sumOperator _) _ _
  | 6 => exact extend_of_fails (fails_furtherOperand stops.fails_productOperator _) _ _
  | 7 => rfl
  | 8 => exact extend_of_fails ((fails_symbol (stops.not_prefix (Nat.le_refl _) fun _ => rfl)).bind _) _ _
  | more + 9 => rfl

end Stops

/-! ## Operators as symbols -/

section Operators

variable {text rest : Text}

theorem signOperator_eq_done_iff {sign : Sign} :
    signOperator text = .done sign rest ↔ symbol sign.text text = .done sign.text rest := by
  constructor
  · intro done
    rcases done_of_firstOf_pair done with read | read <;> obtain ⟨rfl, split⟩ := operator_eq_done_iff.mp read
    · exact symbol_eq_done_iff.mpr ⟨rfl, split⟩
    · exact symbol_eq_done_iff.mpr ⟨rfl, split⟩
  · intro read
    obtain ⟨-, mid, rfl, rfl⟩ := symbol_eq_done_iff.mp read
    have found : operator sign.text sign (sign.text ++ mid) = .done sign (skipLayout mid) := bind_of_done read _
    cases sign with
    | plus => exact firstOf_of_done found
    | minus => exact firstOf_of_fails (fails_operator (by simp [Sign.text])) (firstOf_of_done found)

theorem sumOperator_eq_done_iff {op : ArithmeticOp} :
    sumOperator text = .done op rest ↔ op.rank = 5 ∧ symbol op.text text = .done op.text rest := by
  constructor
  · intro done
    rcases done_of_firstOf_pair done with read | read <;> obtain ⟨rfl, split⟩ := operator_eq_done_iff.mp read
    · exact ⟨rfl, symbol_eq_done_iff.mpr ⟨rfl, split⟩⟩
    · exact ⟨rfl, symbol_eq_done_iff.mpr ⟨rfl, split⟩⟩
  · rintro ⟨rank, read⟩
    obtain ⟨-, mid, rfl, rfl⟩ := symbol_eq_done_iff.mp read
    have found : operator op.text op (op.text ++ mid) = .done op (skipLayout mid) := bind_of_done read _
    cases op with
    | add => exact firstOf_of_done found
    | subtract => exact firstOf_of_fails (fails_operator (by simp [ArithmeticOp.text])) (firstOf_of_done found)
    | multiply | divide | modulo => cases rank

theorem productOperator_eq_done_iff {op : ArithmeticOp} :
    productOperator text = .done op rest ↔ op.rank = 6 ∧ symbol op.text text = .done op.text rest := by
  constructor
  · intro done
    obtain ⟨reader, member, read⟩ := exists_of_firstOf done
    simp only [List.mem_cons, List.not_mem_nil, or_false] at member
    rcases member with rfl | rfl | rfl <;> obtain ⟨rfl, split⟩ := operator_eq_done_iff.mp read
    · exact ⟨rfl, symbol_eq_done_iff.mpr ⟨rfl, split⟩⟩
    · exact ⟨rfl, symbol_eq_done_iff.mpr ⟨rfl, split⟩⟩
    · exact ⟨rfl, symbol_eq_done_iff.mpr ⟨rfl, split⟩⟩
  · rintro ⟨rank, read⟩
    obtain ⟨-, mid, rfl, rfl⟩ := symbol_eq_done_iff.mp read
    have found : operator op.text op (op.text ++ mid) = .done op (skipLayout mid) := bind_of_done read _
    cases op with
    | multiply => exact firstOf_of_done found
    | divide => exact firstOf_of_fails (fails_operator (by simp [ArithmeticOp.text])) (firstOf_of_done found)
    | modulo =>
      apply firstOf_of_fails (fails_operator (by simp [ArithmeticOp.text]))
      exact firstOf_of_fails (fails_operator (by simp [ArithmeticOp.text])) (firstOf_of_done found)
    | add | subtract => cases rank

end Operators

def isSign (c : Char) : Bool := c == '+' || c == '-'

theorem fails_signOperator {text : Text} (clear : Clear isSign text) : Fails signOperator text := by
  apply fails_firstOf
  intro reader member
  simp only [List.mem_cons, List.not_mem_nil, or_false] at member
  rcases member with rfl | rfl
  · exact fails_operator (not_prefix_of_clear clear rfl [])
  · exact fails_operator (not_prefix_of_clear clear rfl [])

/-! ## Passing levels -/

/-- What a closer level reads is read from a looser one too, where the text stops. -/
theorem levelReader_of_closer {level closer : Nat} (le : level ≤ closer) (ends : closer ≤ 9) {text rest : Text}
    {tree : Expr} (done : levelReader inner closer text = .done tree rest) (stops : Stops level rest)
    (unsigned : 7 < closer → Clear isSign text) : levelReader inner level text = .done tree rest := by
  induction le with
  | refl => exact done
  | @step closer le ih =>
    refine ih (Nat.le_of_succ_le ends) ?_ fun lt => unsigned (Nat.lt_succ_of_lt lt)
    by_cases signs : closer = 7
    · subst signs
      exact (signsBefore_of_fails (fails_signOperator (unsigned (Nat.le_refl _))) _ _).trans done
    · rw [levelReader_of_done ends signs done]
      exact (stops.mono le).goOn inner tree

/-- Where no primary expression starts, no expression does. -/
theorem fails_levelReader {text : Text} (clear : Clear isSign text) (fails : Fails (primaryLevel inner) text)
    (level : Nat) : Fails (levelReader inner level) text := by
  by_cases ends : 9 ≤ level
  · obtain ⟨more, rfl⟩ := Nat.exists_eq_add_of_le' ends
    exact fails
  · have next := fails_levelReader clear fails (level + 1)
    by_cases signs : level = 7
    · subst signs
      obtain ⟨why, failed⟩ := next
      exact ⟨why, (signsBefore_of_fails (fails_signOperator clear) _ _).trans failed⟩
    · rw [levelReader_eq_bind (by omega) signs]
      exact next.bind _
termination_by 9 - level

end Expr

end BulkSql
