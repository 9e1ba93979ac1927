import BulkSql.Proofs.Syntax.Printing

/-! # Replaced parameters and columns

A tree in which every parameter, known by its number, and every column is replaced by another expression. Parameters
are counted in the order of the text, so a part is replaced knowing how many parameters stand in front of it. Nothing
else of the tree changes.
-/

namespace BulkSql

/-- What stands in place of parameters and columns. -/
structure Replacement where
  /-- for the parameter with a number, counted from one -/
  placeholder : Nat → Expr
  column : ColumnRef → Expr

namespace Expr

mutual

/-- The parameters of a tree. -/
def placeholders : Expr → Nat
  | .placeholder => 1
  | .literal _ | .column _ => 0
  | .call _ arguments => placeholdersOfAll arguments
  | .nested inner | .cast inner _ | .signed _ inner | .isNull inner _ => inner.placeholders
  | .arithmetic _ left right | .comparison _ left right | .logical _ left right => left.placeholders + right.placeholders

def placeholdersOfAll : List Expr → Nat
  | [] => 0
  | first :: more => first.placeholders + placeholdersOfAll more

end

mutual

/-- The tree with its leaves replaced, behind a number of other parameters. -/
def replace (replacement : Replacement) : Expr → Nat → Expr
  | .placeholder, n => replacement.placeholder (n + 1)
  | .literal written, _ => .literal written
  | .column reference, _ => replacement.column reference
  | .call name arguments, n => .call name (replaceAll replacement arguments n)
  | .nested inner, n => .nested (inner.replace replacement n)
  | .cast inner type, n => .cast (inner.replace replacement n) type
  | .signed sign inner, n => .signed sign (inner.replace replacement n)
  | .arithmetic op left right, n =>
    .arithmetic op (left.replace replacement n) (right.replace replacement (n + left.placeholders))
  | .comparison op left right, n =>
    .comparison op (left.replace replacement n) (right.replace replacement (n + left.placeholders))
  | .logical op left right, n =>
    .logical op (left.replace replacement n) (right.replace replacement (n + left.placeholders))
  | .isNull inner negated, n => .isNull (inner.replace replacement n) negated

def replaceAll (replacement : Replacement) : List Expr → Nat → List Expr
  | [], _ => []
  | first :: more, n => first.replace replacement n :: replaceAll replacement more (n + first.placeholders)

end

end Expr

namespace Replacement

variable {replacement : Replacement}

/-- What holds of each tree of a list wherever it stands holds of the replaced list. -/
theorem forall_mem_replaceAll {good : Expr → Prop} {trees : List Expr}
    (each : ∀ tree ∈ trees, ∀ n, good (tree.replace replacement n)) (n : Nat) :
    ∀ tree ∈ Expr.replaceAll replacement trees n, good tree := by
  induction trees generalizing n with
  | nil => simp [Expr.replaceAll]
  | cons first more ih =>
    rw [Expr.replaceAll]
    rintro tree (_ | ⟨_, member⟩)
    · exact each first (List.mem_cons_self ..) n
    · exact ih (fun other inside => each other (List.mem_cons_of_mem _ inside)) _ tree member

/-! ## Counting -/

theorem placeholdersOfAll_replaceAll {each : Nat} {trees : List Expr}
    (counts : ∀ tree ∈ trees, ∀ n, (tree.replace replacement n).placeholders = each * tree.placeholders) (n : Nat) :
    Expr.placeholdersOfAll (Expr.replaceAll replacement trees n) = each * Expr.placeholdersOfAll trees := by
  induction trees generalizing n with
  | nil => rfl
  | cons first more ih =>
    rw [Expr.replaceAll, Expr.placeholdersOfAll, Expr.placeholdersOfAll, counts first (List.mem_cons_self ..),
      ih fun tree member => counts tree (List.mem_cons_of_mem _ member), Nat.mul_add]

/-- Every parameter becomes as many as what replaces it has. -/
theorem placeholders_replace {each : Nat} (placeholder : ∀ n, (replacement.placeholder n).placeholders = each)
    (column : ∀ reference, (replacement.column reference).placeholders = 0) (tree : Expr) (n : Nat) :
    (tree.replace replacement n).placeholders = each * tree.placeholders := by
  induction tree using Expr.induction generalizing n with
  | placeholder => exact (placeholder (n + 1)).trans (Nat.mul_one each).symm
  | literal written => rfl
  | column reference => exact column reference
  | call name arguments ih =>
    rw [Expr.replace, Expr.placeholders, placeholdersOfAll_replaceAll ih, Expr.placeholders]
  | nested inner ih | cast inner type ih | signed sign inner ih => exact ih n
  | arithmetic op left right ihLeft ihRight | comparison op left right ihLeft ihRight
  | logical op left right ihLeft ihRight =>
    simp only [Expr.replace, Expr.placeholders, ihLeft, ihRight, Nat.mul_add]
  | isNull inner negated ih => exact ih n

theorem replaceAll_replaceAll {trees : List Expr}
    (settled : ∀ tree ∈ trees, tree.placeholders = 0 → ∀ n m,
      (tree.replace replacement n).replace replacement m = tree.replace replacement n)
    (closed : Expr.placeholdersOfAll trees = 0) (n m : Nat) :
    Expr.replaceAll replacement (Expr.replaceAll replacement trees n) m = Expr.replaceAll replacement trees n := by
  induction trees generalizing n m with
  | nil => rfl
  | cons first more ih =>
    rw [Expr.placeholdersOfAll, Nat.add_eq_zero_iff] at closed
    rw [Expr.replaceAll, Expr.replaceAll, settled first (List.mem_cons_self ..) closed.1,
      ih (fun tree member => settled tree (List.mem_cons_of_mem _ member)) closed.2]

/-- Where no parameter is left and replaced columns stay, replacing once more changes nothing. -/
theorem replace_replace (settled : ∀ reference m, (replacement.column reference).replace replacement m =
      replacement.column reference) {tree : Expr} (closed : tree.placeholders = 0) (n m : Nat) :
    (tree.replace replacement n).replace replacement m = tree.replace replacement n := by
  induction tree using Expr.induction generalizing n m with
  | placeholder => cases closed
  | literal written => rfl
  | column reference => exact settled reference m
  | call name arguments ih =>
    rw [Expr.placeholders] at closed
    rw [Expr.replace, Expr.replace, replaceAll_replaceAll ih closed]
  | nested inner ih | cast inner type ih | signed sign inner ih => simp only [Expr.replace, ih closed]
  | arithmetic op left right ihLeft ihRight | comparison op left right ihLeft ihRight
  | logical op left right ihLeft ihRight =>
    rw [Expr.placeholders, Nat.add_eq_zero_iff] at closed
    simp only [Expr.replace, ihLeft closed.1, ihRight closed.2]
  | isNull inner negated ih => simp only [Expr.replace, ih closed]

/-! ## Shape -/

/-- Leaves are replaced by primary expressions. -/
structure IsPrimary (replacement : Replacement) : Prop where
  placeholder : ∀ n, (replacement.placeholder n).Shaped ∧ (replacement.placeholder n).rank = 9
  column : ∀ column, (replacement.column column).Shaped ∧ (replacement.column column).rank = 9

theorem IsPrimary.rank_replace (primary : replacement.IsPrimary) (tree : Expr) (n : Nat) :
    (tree.replace replacement n).rank = tree.rank := by
  cases tree with
  | placeholder => exact (primary.placeholder (n + 1)).2
  | column reference => exact (primary.column reference).2
  | _ => rfl

theorem IsPrimary.shaped_replace (primary : replacement.IsPrimary) {tree : Expr} (shaped : tree.Shaped) (n : Nat) :
    (tree.replace replacement n).Shaped := by
  have rank := primary.rank_replace
  induction shaped generalizing n with
  | placeholder => exact (primary.placeholder (n + 1)).1
  | literal written => exact .literal written
  | column reference => exact (primary.column reference).1
  | call name each ih => exact .call name (forall_mem_replaceAll ih n)
  | nested shaped ih => exact .nested (ih n)
  | cast type shaped close ih => exact .cast type (ih n) (by rw [rank]; exact close)
  | signed sign shaped close ih => exact .signed sign (ih n) (by rw [rank]; exact close)
  | arithmetic op _ _ closeLeft closeRight ihLeft ihRight =>
    exact .arithmetic op (ihLeft n) (ihRight _) (by rw [rank]; exact closeLeft) (by rw [rank]; exact closeRight)
  | comparison op _ _ closeLeft closeRight ihLeft ihRight =>
    exact .comparison op (ihLeft n) (ihRight _) (by rw [rank]; exact closeLeft) (by rw [rank]; exact closeRight)
  | logical op _ _ closeLeft closeRight ihLeft ihRight =>
    exact .logical op (ihLeft n) (ihRight _) (by rw [rank]; exact closeLeft) (by rw [rank]; exact closeRight)
  | isNull negated shaped close ih => exact .isNull negated (ih n) (by rw [rank]; exact close)

theorem isAtom_replace (placeholder : ∀ n, (replacement.placeholder n).IsAtom) {tree : Expr} (atom : tree.IsAtom)
    (n : Nat) : (tree.replace replacement n).IsAtom := by
  induction atom generalizing n with
  | placeholder => exact placeholder (n + 1)
  | literal written => exact .literal written
  | call name each ih => exact .call name (forall_mem_replaceAll ih n)
  | nested atom ih => exact .nested (ih n)
  | cast type atom ih => exact .cast type (ih n)

/-! ## Lexemes -/

/-- The lexemes of a replaced tree can be read if those of the tree and of what replaces its leaves can. -/
theorem allRead_replace (placeholder : ∀ n, AllRead (replacement.placeholder n).lexemes)
    (column : ∀ reference, AllRead (Expr.column reference).lexemes → AllRead (replacement.column reference).lexemes)
    {tree : Expr} (read : AllRead tree.lexemes) (n : Nat) : AllRead (tree.replace replacement n).lexemes := by
  induction tree using Expr.induction generalizing n with
  | placeholder => exact placeholder (n + 1)
  | literal written => exact read
  | column reference => exact column reference read
  | call name arguments ih =>
    simp only [Expr.replace, Expr.lexemes, Expr.lexemesOfAll_eq_map, allRead_cons, Lexeme.allRead_parenthesized,
      Lexeme.allRead_commaList, List.forall_mem_map] at read ⊢
    exact ⟨read.1, forall_mem_replaceAll (fun argument member => ih argument member (read.2 argument member)) n⟩
  | nested inner ih =>
    simp only [Expr.replace, Expr.lexemes, Lexeme.allRead_parenthesized] at read ⊢
    exact ih read n
  | cast inner type ih =>
    simp only [Expr.replace, Expr.lexemes, allRead_append] at read ⊢
    exact ⟨ih read.1 n, read.2⟩
  | signed sign inner ih =>
    simp only [Expr.replace, Expr.lexemes, allRead_cons] at read ⊢
    exact ⟨read.1, ih read.2 n⟩
  | arithmetic op left right ihLeft ihRight | comparison op left right ihLeft ihRight
  | logical op left right ihLeft ihRight =>
    simp only [Expr.replace, Expr.lexemes, allRead_append, allRead_cons] at read ⊢
    exact ⟨ihLeft read.1 n, read.2.1, ihRight read.2.2 _⟩
  | isNull inner negated ih =>
    simp only [Expr.replace, Expr.lexemes, allRead_append] at read ⊢
    exact ⟨ih read.1 n, read.2⟩

end Replacement

end BulkSql
