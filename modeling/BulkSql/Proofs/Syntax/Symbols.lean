import BulkSql.Proofs.Syntax.Statements

/-! # Symbols of the grammar

Few symbols occur in a statement, and behind a dot there is always a name. So a sequence of lexemes can be told apart
from its text alone, also by a scanner that knows numbers which start with a point.
-/

namespace BulkSql

namespace Lexeme

/-- The symbols of the grammar other than the dot and the comparisons. -/
def marks : List Text := ["(", ")", ",", "=", "::", "+", "-", "*", "/", "%"]

/-- A sequence of lexemes as the grammar has them. -/
inductive Regular : List Lexeme → Prop where
  | nil : Regular []
  | mark {symbol : Text} (member : symbol ∈ marks) {more : List Lexeme} (regular : Regular more) :
    Regular (.symbol symbol :: more)
  | dot (name : Text) {more : List Lexeme} (regular : Regular more) :
    Regular (.symbol ['.'] :: .name name :: more)
  | wordy {lexeme : Lexeme} (wordy : ∀ symbol, lexeme ≠ .symbol symbol) {more : List Lexeme}
    (regular : Regular more) : Regular (lexeme :: more)

namespace Regular

variable {first second : List Lexeme}

theorem append (regular : Regular first) (more : Regular second) : Regular (first ++ second) := by
  induction regular with
  | nil => exact more
  | mark member _ ih => exact .mark member ih
  | dot name _ ih => exact .dot name ih
  | wordy wordy _ ih => exact .wordy wordy ih

theorem keyword (keyword : Keyword) (regular : Regular first) : Regular (.keyword keyword :: first) :=
  .wordy (by simp) regular

theorem name (name : Text) (regular : Regular first) : Regular (.name name :: first) := .wordy (by simp) regular

theorem parenthesized (regular : Regular first) : Regular (Lexeme.parenthesized first) :=
  (Regular.mark (by decide) regular).append (.mark (by decide) .nil)

theorem commaList {parts : List (List Lexeme)} (each : ∀ part ∈ parts, Regular part) :
    Regular (Lexeme.commaList parts) :=
  commaList_of_append .nil append (.mark (by decide) .nil) each

theorem dotted (qualifier? : Option Text) (name : Text) : Regular (Lexeme.dotted qualifier? name) := by
  cases qualifier? with
  | none => exact .name name .nil
  | some qualifier => exact .name qualifier (.dot name .nil)

theorem nameList (names : List Text) : Regular (Lexeme.nameList names) := by
  refine parenthesized (commaList (List.forall_mem_map.mpr fun name _ => ?_))
  exact .name name .nil

end Regular

end Lexeme

open Lexeme

theorem Expr.regular_lexemes (tree : Expr) : Regular tree.lexemes := by
  induction tree using Expr.induction with
  | placeholder | literal => exact .wordy (by simp) .nil
  | column reference => exact .dotted reference.qualifier? reference.name
  | call name arguments ih =>
    rw [lexemes, lexemesOfAll_eq_map]
    exact .name name (.parenthesized (.commaList (List.forall_mem_map.mpr ih)))
  | nested inner ih => exact ih.parenthesized
  | cast inner type ih => exact ih.append (.mark (by decide) (.wordy (by simp) .nil))
  | signed sign inner ih => exact .mark (by cases sign <;> decide) ih
  | arithmetic op left right ihLeft ihRight => exact ihLeft.append (.mark (by cases op <;> decide) ihRight)
  | comparison op left right ihLeft ihRight => exact ihLeft.append (.wordy (by simp) ihRight)
  | logical op left right ihLeft ihRight => exact ihLeft.append (.keyword op.keyword ihRight)
  | isNull inner negated ih =>
    refine ih.append (.keyword .IS ?_)
    cases negated with
    | true => exact .keyword .NOT (.keyword .NULL .nil)
    | false => exact .keyword .NULL .nil

theorem Update.regular_lexemes (update : Update) : Regular update.lexemes := by
  have assignments : Regular (Lexeme.commaList (update.assignments.map SetClause.lexemes)) := by
    refine .commaList (List.forall_mem_map.mpr fun clause _ => ?_)
    exact .name clause.column (.mark (by decide) clause.value.regular_lexemes)
  have condition := Regular.keyword .WHERE update.condition.regular_lexemes
  exact .keyword .UPDATE ((Regular.dotted _ _).append (.keyword .SET (assignments.append condition)))

/-- The values of a row in their parentheses. -/
def Lexeme.atomList (atoms : List Expr) : List Lexeme :=
  Lexeme.parenthesized (Lexeme.commaList (atoms.map Expr.lexemes))

theorem regular_atomList (atoms : List Expr) : Regular (Lexeme.atomList atoms) :=
  .parenthesized (.commaList (List.forall_mem_map.mpr fun atom _ => atom.regular_lexemes))

theorem RowTarget.regular_headLexemes (verb : Keyword) (row : RowTarget) : Regular (row.headLexemes verb) := by
  have columns := (Regular.nameList row.columns).append (.keyword .VALUES .nil)
  exact .keyword verb (.keyword .INTO ((Regular.dotted _ _).append columns))

/-- A row is what stands in front of its values, and the values. -/
theorem RowTarget.lexemes_eq_append (verb : Keyword) (row : RowTarget) :
    row.lexemes verb = row.headLexemes verb ++ Lexeme.atomList row.values.atoms := by
  simp [lexemes, headLexemes, Lexeme.valueList, Lexeme.atomList]

theorem Statement.regular_conflictLexemes (conflict? : Option ConflictTarget) : Regular (conflictLexemes conflict?) := by
  cases conflict? with
  | none => exact .nil
  | some target =>
    have aim : Regular target.lexemes := by
      cases target with
      | columns names => exact .nameList names
      | constraint name => exact .keyword .ON (.keyword .CONSTRAINT (.name name .nil))
    exact .keyword .ON (.keyword .CONFLICT (aim.append (.keyword .DO (.keyword .NOTHING .nil))))

/-- The lexemes of every statement are as the grammar has them. -/
theorem Statement.regular_lexemes (statement : Statement) : Regular statement.lexemes := by
  have row (verb : Keyword) (row : RowTarget) : Regular (row.lexemes verb) := by
    rw [row.lexemes_eq_append]
    exact (row.regular_headLexemes verb).append (regular_atomList row.values.atoms)
  cases statement with
  | insert target conflict? => exact (row .INSERT target).append (regular_conflictLexemes conflict?)
  | upsert target => exact row .UPSERT target
  | update update => exact update.regular_lexemes

end BulkSql
