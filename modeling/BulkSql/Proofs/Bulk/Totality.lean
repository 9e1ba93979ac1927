import BulkSql.Proofs.Bulk.RowForm
import BulkSql.Proofs.Bulk.UpdateForm

/-! # No form breaks

A walk never asks the stack for what is not there: whatever tree it visits and whatever lies on the stack, it leaves
one operand more, which is the rendering of the tree. So a text is refused only where it is not parsed.
-/

namespace BulkSql

namespace LeafStyle

/-- Visiting any tree on any stack puts its rendering on top, which is no name, and counts its parameters. -/
def RendersOnTop (style : LeafStyle) : Prop :=
  ∀ (tree : Expr) (state : WalkState),
    Walk.visit style tree state =
      (.ok (), {
        stack := tree.fragment style state.parameters :: state.stack
        parameters := state.parameters + tree.placeholders }) ∧
    (tree.fragment style state.parameters).IsOperand

theorem WritesOperands.rendersOnTop {style : LeafStyle} (operands : style.WritesOperands) : style.RendersOnTop :=
  fun tree state => ⟨Walk.visit_eq operands tree state, tree.isOperand_fragment operands state.parameters⟩

end LeafStyle

/-- The parameters of a statement. -/
def Statement.placeholders : Statement → Nat
  | .insert row _ | .upsert row => Expr.placeholdersOfAll row.values.atoms
  | .update written => written.placeholders

namespace Bulk

/-- A statement with a value for each column has a form, which takes an array for each parameter. -/
theorem exists_ofStatement (derived : DerivedTable) {statement : Statement} (fits : statement.FitsArity) :
    ∃ bulk, ofStatement derived statement = .ok bulk ∧ bulk.parameterCount = statement.placeholders := by
  cases statement with
  | insert row conflict? => exact ⟨_, @ofRow_eq .insert row (fits row rfl) conflict?, rfl⟩
  | upsert row => exact ⟨_, @ofRow_eq .upsert row (fits row rfl) none, rfl⟩
  | update update => exact ⟨_, ofUpdate_eq update, rfl⟩

theorem exists_ofText (derived : DerivedTable) {kind : StatementKind} {sql : Text} {statement : Statement}
    (parsed : Statement.parse kind sql = .ok statement) :
    ∃ bulk, ofText derived kind sql = .ok bulk ∧ bulk.parameterCount = statement.placeholders := by
  obtain ⟨fits, -⟩ := Statement.parse_eq_ok_iff.mp parsed
  obtain ⟨bulk, formed, counted⟩ := exists_ofStatement derived fits
  refine ⟨bulk, ?_, counted⟩
  rw [ofText, parsed]
  dsimp only
  rw [formed]

theorem ofText_of_unparsed (derived : DerivedTable) {kind : StatementKind} {sql : Text} {error : ParseError}
    (unparsed : Statement.parse kind sql = .error error) : ofText derived kind sql = .error (.unparsed error) := by
  rw [ofText, unparsed]

/-- The walk renders every tree for every kind of statement, whatever the stack holds. Hence a text is refused with the
error of the parser or has a form, and it qualifies exactly if it is parsed. -/
theorem ofText_never_breaks :
    rowStyle.RendersOnTop ∧ (∀ derived table, (updateStyle derived table).RendersOnTop) ∧
      ∀ derived kind sql,
        (match Statement.parse kind sql with
          | .ok _ => ∃ bulk, ofText derived kind sql = .ok bulk
          | .error error => ofText derived kind sql = .error (.unparsed error)) ∧
        (qualifies derived kind sql ↔ ∃ statement, Statement.parse kind sql = .ok statement) := by
  refine ⟨rowStyle_writes.operands.rendersOnTop, fun _ _ => updateStyle_writes.operands.rendersOnTop, ?_⟩
  intro derived kind sql
  unfold qualifies
  cases parsed : Statement.parse kind sql with
  | ok statement =>
    obtain ⟨bulk, formed, -⟩ := exists_ofText derived parsed
    refine ⟨⟨bulk, formed⟩, iff_of_true ?_ ⟨statement, rfl⟩⟩
    rw [formed]
    rfl
  | error error =>
    have refused := ofText_of_unparsed derived parsed
    refine ⟨refused, iff_of_false ?_ nofun⟩
    rw [refused]
    exact nofun

end Bulk

end BulkSql
