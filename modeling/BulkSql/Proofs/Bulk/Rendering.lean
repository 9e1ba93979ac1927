import BulkSql.Bulk.Walk
import BulkSql.Proofs.Bulk.Replacement

/-! # What a walk leaves

Visiting a tree puts its fragment on top of the stack, which is the fragment of a recursion over the tree, and counts
its parameters; the stack below stays as it is and nothing fails. The operand of the fragment is the text of the tree
with its leaves replaced by what the style writes for them.
-/

namespace BulkSql

namespace Fragment

/-- A fragment that may be an operand: any but a name. -/
def IsOperand (fragment : Fragment) : Prop := ∀ text, fragment ≠ .name text

/-- The fragment as an operand. -/
def operand (fragment : Fragment) : Text := fragment.operand?.getD []

/-- The fragment under one more cast. -/
def cast (type : Text) (fragment : Fragment) : Fragment := (fragment.cast? type).getD fragment

theorem isOperand_expr (text : Text) : (Fragment.expr text).IsOperand := nofun

variable {fragment : Fragment}

theorem IsOperand.operand?_eq (isOperand : fragment.IsOperand) : fragment.operand? = some fragment.operand := by
  match fragment with
  | placeholder none | placeholder (some _) | expr _ => rfl
  | name text => exact absurd rfl (isOperand text)

theorem IsOperand.cast?_eq (isOperand : fragment.IsOperand) (type : Text) :
    fragment.cast? type = some (fragment.cast type) := by
  match fragment with
  | placeholder none | placeholder (some _) | expr _ => rfl
  | name text => exact absurd rfl (isOperand text)

theorem IsOperand.cast (isOperand : fragment.IsOperand) (type : Text) : (fragment.cast type).IsOperand := by
  match fragment with
  | placeholder none | placeholder (some _) | expr _ => exact nofun
  | name text => exact absurd rfl (isOperand text)

/-- A cast is written behind the operand, whether it is gathered or not. -/
theorem IsOperand.operand_cast (isOperand : fragment.IsOperand) (type : Text) :
    (fragment.cast type).operand = fragment.operand ++ "::" ++ type := by
  match fragment with
  | placeholder none => rfl
  | placeholder (some casts) => simp [Fragment.cast, cast?, operand, operand?]
  | expr _ => rfl
  | name text => exact absurd rfl (isOperand text)

end Fragment

/-! ## Fragments of trees -/

namespace Expr

mutual

/-- The fragment of a tree behind a number of other parameters. -/
def fragment (style : LeafStyle) : Expr → Nat → Fragment
  | .placeholder, n => style.placeholder (n + 1)
  | .literal written, _ => .expr written.text
  | .column reference, _ => .expr (style.column reference)
  | .call name arguments, n =>
    .expr (name ++ "(" ++ Text.commaList ((fragmentsOfAll style arguments n).map Fragment.operand) ++ ")")
  | .nested inner, n => .expr ("(" ++ (inner.fragment style n).operand ++ ")")
  | .cast inner type, n => (inner.fragment style n).cast type
  | .signed sign inner, n =>
    .expr (sign.text ++ gapBefore (inner.fragment style n).operand ++ (inner.fragment style n).operand)
  | .arithmetic op left right, n =>
    .expr ((left.fragment style n).operand ++ " " ++ op.text ++ " " ++
      (right.fragment style (n + left.placeholders)).operand)
  | .comparison op left right, n =>
    .expr ((left.fragment style n).operand ++ " " ++ op.text ++ " " ++
      (right.fragment style (n + left.placeholders)).operand)
  | .logical op left right, n =>
    .expr ((left.fragment style n).operand ++ " " ++ op.text ++ " " ++
      (right.fragment style (n + left.placeholders)).operand)
  | .isNull inner negated, n =>
    .expr ((inner.fragment style n).operand ++ " " ++ if negated then "IS NOT NULL" else "IS NULL")

def fragmentsOfAll (style : LeafStyle) : List Expr → Nat → List Fragment
  | [], _ => []
  | first :: more, n => first.fragment style n :: fragmentsOfAll style more (n + first.placeholders)

end

theorem length_fragmentsOfAll (style : LeafStyle) (trees : List Expr) (n : Nat) :
    (fragmentsOfAll style trees n).length = trees.length := by
  induction trees generalizing n with
  | nil => rfl
  | cons first more ih => rw [fragmentsOfAll, List.length_cons, ih, List.length_cons]

end Expr

/-- A style that writes no parameter as a name. -/
def LeafStyle.WritesOperands (style : LeafStyle) : Prop := ∀ n, (style.placeholder n).IsOperand

variable {style : LeafStyle}

theorem Expr.isOperand_fragment (operands : style.WritesOperands) (tree : Expr) (n : Nat) :
    (tree.fragment style n).IsOperand := by
  induction tree using Expr.induction with
  | placeholder => exact operands (n + 1)
  | cast inner type ih => exact ih.cast type
  | literal | column | call | nested | signed | arithmetic | comparison | logical | isNull =>
    exact Fragment.isOperand_expr _

theorem Expr.isOperand_of_mem_fragmentsOfAll (operands : style.WritesOperands) {trees : List Expr} {n : Nat}
    {fragment : Fragment} (member : fragment ∈ fragmentsOfAll style trees n) : fragment.IsOperand := by
  induction trees generalizing n with
  | nil => cases member
  | cons first more ih =>
    rcases List.mem_cons.mp member with rfl | behind
    · exact isOperand_fragment operands first n
    · exact ih behind

/-! ## Operands -/

/-- A style writes its leaves as a replacement has them. -/
structure LeafStyle.Writes (style : LeafStyle) (replacement : Replacement) : Prop where
  operands : style.WritesOperands
  placeholder : ∀ n, (style.placeholder n).operand = (replacement.placeholder n).text
  column : ∀ column, style.column column = (replacement.column column).text

namespace LeafStyle.Writes

variable {replacement : Replacement}

theorem map_operand_fragmentsOfAll {trees : List Expr} (each : ∀ tree ∈ trees, ∀ n,
      (tree.fragment style n).operand = (tree.replace replacement n).text) (n : Nat) :
    (Expr.fragmentsOfAll style trees n).map Fragment.operand = (Expr.replaceAll replacement trees n).map Expr.text := by
  induction trees generalizing n with
  | nil => rfl
  | cons first more ih =>
    rw [Expr.fragmentsOfAll, Expr.replaceAll, List.map_cons, List.map_cons, each first (List.mem_cons_self ..),
      ih fun tree member => each tree (List.mem_cons_of_mem _ member)]

/-- The operand of a tree is the text of the tree with its leaves replaced. -/
theorem operand_fragment (writes : style.Writes replacement) (tree : Expr) (n : Nat) :
    (tree.fragment style n).operand = (tree.replace replacement n).text := by
  induction tree using Expr.induction generalizing n with
  | placeholder => exact writes.placeholder (n + 1)
  | literal written => rfl
  | column reference => exact writes.column reference
  | call name arguments ih =>
    rw [Expr.replace, Expr.text, Expr.textOfAll_eq_map, ← map_operand_fragmentsOfAll ih]
    rfl
  | nested inner ih =>
    rw [Expr.replace, Expr.text, ← ih]
    rfl
  | cast inner type ih =>
    rw [Expr.replace, Expr.text, ← ih]
    exact (Expr.isOperand_fragment writes.operands inner n).operand_cast type
  | signed sign inner ih =>
    rw [Expr.replace, Expr.text, ← ih]
    rfl
  | arithmetic op left right ihLeft ihRight | comparison op left right ihLeft ihRight
  | logical op left right ihLeft ihRight =>
    rw [Expr.replace, Expr.text, ← ihLeft, ← ihRight]
    rfl
  | isNull inner negated ih =>
    rw [Expr.replace, Expr.text, ← ih]
    rfl

end LeafStyle.Writes

/-! ## Steps on a stack -/

/-- What a step that succeeds leaves is what the next step starts with. -/
theorem bind_of_ok {σ ε α β : Type} {step : ExceptT ε (StateM σ) α} {state after : σ} {value : α}
    (ok : step state = (.ok value, after)) (next : α → ExceptT ε (StateM σ) β) :
    (step >>= next) state = next value after := by
  change (step.run >>= ExceptT.bindCont next) state = _
  change ExceptT.bindCont next (step state).1 (step state).2 = _
  rw [ok]
  rfl

namespace FragmentStack

variable {stack : FragmentStack} {fragment : Fragment}

theorem pop_cons (rule : Text) : pop rule (fragment :: stack) = (.ok fragment, stack) := rfl

theorem asOperand_of_isOperand (rule : Text) (isOperand : fragment.IsOperand) (stack : FragmentStack) :
    asOperand rule fragment stack = (.ok fragment.operand, stack) := by
  rw [asOperand, isOperand.operand?_eq]
  rfl

theorem popOperand_cons (rule : Text) (isOperand : fragment.IsOperand) :
    popOperand rule (fragment :: stack) = (.ok fragment.operand, stack) :=
  (bind_of_ok (pop_cons rule) _).trans (asOperand_of_isOperand rule isOperand stack)

theorem popMany_append (rule : Text) (fragments : List Fragment) :
    popMany fragments.length rule (fragments.reverse ++ stack) = (.ok fragments, stack) := by
  have enough : ¬(fragments.reverse ++ stack).length < fragments.length := by
    rw [List.length_append, List.length_reverse]
    omega
  have popped : popMany fragments.length rule (fragments.reverse ++ stack) =
      (.ok ((fragments.reverse ++ stack).take fragments.length).reverse,
        (fragments.reverse ++ stack).drop fragments.length) := by
    have got : (get : StackStep FragmentStack) (fragments.reverse ++ stack) =
        (.ok (fragments.reverse ++ stack), fragments.reverse ++ stack) := rfl
    apply (bind_of_ok got _).trans
    rw [if_neg enough]
    rfl
  rw [popped, List.take_left' (List.length_reverse ..), List.drop_left' (List.length_reverse ..), List.reverse_reverse]

theorem popOperands_append (rule : Text) {fragments : List Fragment}
    (operands : ∀ fragment ∈ fragments, fragment.IsOperand) :
    popOperands fragments.length rule (fragments.reverse ++ stack) = (.ok (fragments.map Fragment.operand), stack) := by
  apply (bind_of_ok (popMany_append rule fragments) _).trans
  induction fragments with
  | nil => rfl
  | cons fragment fragments ih =>
    rw [List.mapM_cons]
    apply (bind_of_ok (asOperand_of_isOperand rule (operands fragment (List.mem_cons_self ..)) stack) _).trans
    exact bind_of_ok (ih fun other member => operands other (List.mem_cons_of_mem _ member)) _

end FragmentStack

/-! ## Visits -/

/-- The state with fragments and a number of parameters more. -/
def WalkState.extended (state : WalkState) (fragments : List Fragment) (parameters : Nat) : WalkState where
  stack := fragments.reverse ++ state.stack
  parameters := state.parameters + parameters

namespace Walk

variable {state : WalkState}

/-- A step on the stack leaves the count of parameters. -/
theorem onStack_of_ok {α : Type} {step : StackStep α} {value : α} {stack : FragmentStack}
    (ok : step state.stack = (.ok value, stack)) : onStack step state = (.ok value, { state with stack }) := by
  rw [onStack, ok]

theorem onStack_popOperand (rule : Text) {fragment : Fragment} (isOperand : fragment.IsOperand) (stack : FragmentStack)
    (parameters : Nat) : onStack (FragmentStack.popOperand rule) ⟨fragment :: stack, parameters⟩ =
      (.ok fragment.operand, ⟨stack, parameters⟩) :=
  onStack_of_ok (FragmentStack.popOperand_cons rule isOperand)

theorem exitNested_apply {fragment : Fragment} (isOperand : fragment.IsOperand)
    (stack : FragmentStack) (parameters : Nat) :
    exitNested ⟨fragment :: stack, parameters⟩ =
      (.ok (), ⟨.expr ("(" ++ fragment.operand ++ ")") :: stack, parameters⟩) :=
  bind_of_ok (onStack_popOperand "nested" isOperand stack parameters) _

theorem exitCast_apply {fragment : Fragment} (isOperand : fragment.IsOperand) (type : Text) (stack : FragmentStack)
    (parameters : Nat) : exitCast type ⟨fragment :: stack, parameters⟩ =
      (.ok (), ⟨fragment.cast type :: stack, parameters⟩) := by
  have popped : onStack (FragmentStack.pop "cast") ⟨fragment :: stack, parameters⟩ =
      (.ok fragment, ⟨stack, parameters⟩) := rfl
  apply (bind_of_ok popped _).trans
  rw [isOperand.cast?_eq]
  rfl

theorem exitSigned_apply {fragment : Fragment} (isOperand : fragment.IsOperand) (sign : Sign) (stack : FragmentStack)
    (parameters : Nat) : exitSigned sign ⟨fragment :: stack, parameters⟩ =
      (.ok (), ⟨.expr (sign.text ++ Expr.gapBefore fragment.operand ++ fragment.operand) :: stack, parameters⟩) :=
  bind_of_ok (onStack_popOperand "unary" isOperand stack parameters) _

theorem exitBinary_apply {left right : Fragment} (isLeft : left.IsOperand) (isRight : right.IsOperand) (rule op : Text)
    (stack : FragmentStack) (parameters : Nat) : exitBinary rule op ⟨right :: left :: stack, parameters⟩ =
      (.ok (), ⟨.expr (left.operand ++ " " ++ op ++ " " ++ right.operand) :: stack, parameters⟩) := by
  apply (bind_of_ok (onStack_popOperand rule isRight (left :: stack) parameters) _).trans
  exact bind_of_ok (onStack_popOperand rule isLeft stack parameters) _

theorem exitBinary_extended {left right : Fragment} (isLeft : left.IsOperand)
    (isRight : right.IsOperand) (rule op : Text)
    (state : WalkState) (before behind : Nat) :
    exitBinary rule op ((state.extended [left] before).extended [right] behind) =
      (.ok (), state.extended [.expr (left.operand ++ " " ++ op ++ " " ++ right.operand)] (before + behind)) := by
  apply (exitBinary_apply isLeft isRight rule op _ _).trans
  simp [WalkState.extended, Nat.add_assoc]

theorem exitIsNull_apply {fragment : Fragment} (isOperand : fragment.IsOperand) (negated : Bool) (stack : FragmentStack)
    (parameters : Nat) : exitIsNull negated ⟨fragment :: stack, parameters⟩ =
      (.ok (), ⟨.expr (fragment.operand ++ " " ++ if negated then "IS NOT NULL" else "IS NULL") :: stack, parameters⟩) :=
  bind_of_ok (onStack_popOperand "is_null" isOperand stack parameters) _

theorem exitCall_apply {fragments : List Fragment} (operands : ∀ fragment ∈ fragments, fragment.IsOperand) (name : Text)
    (stack : FragmentStack) (parameters : Nat) :
    exitCall name fragments.length ⟨fragments.reverse ++ stack, parameters⟩ =
      (.ok (), ⟨.expr (name ++ "(" ++ Text.commaList (fragments.map Fragment.operand) ++ ")") :: stack, parameters⟩) :=
  bind_of_ok (onStack_of_ok (FragmentStack.popOperands_append "function_call" operands)) _

theorem visitAll_of_visit {trees : List Expr} (each : ∀ tree ∈ trees, ∀ state,
      visit style tree state = (.ok (), state.extended [tree.fragment style state.parameters] tree.placeholders)) :
    visitAll style trees state =
      (.ok (), state.extended (Expr.fragmentsOfAll style trees state.parameters) (Expr.placeholdersOfAll trees)) := by
  induction trees generalizing state with
  | nil => rfl
  | cons first more ih =>
    rw [visitAll, bind_of_ok (each first (List.mem_cons_self ..) state),
      ih fun tree member => each tree (List.mem_cons_of_mem _ member)]
    simp [WalkState.extended, Expr.fragmentsOfAll, Expr.placeholdersOfAll, Nat.add_assoc]

/-- A visit pushes the fragment of the tree, counts its parameters and does nothing else. -/
theorem visit_eq (operands : style.WritesOperands) (tree : Expr) (state : WalkState) :
    visit style tree state = (.ok (), state.extended [tree.fragment style state.parameters] tree.placeholders) := by
  have fine := Expr.isOperand_fragment operands
  induction tree using Expr.induction generalizing state with
  | placeholder => rfl
  | literal written => rfl
  | column reference => rfl
  | call name arguments ih =>
    have fineAll : ∀ fragment ∈ Expr.fragmentsOfAll style arguments state.parameters, fragment.IsOperand :=
      fun _ => Expr.isOperand_of_mem_fragmentsOfAll operands
    rw [visit, bind_of_ok (visitAll_of_visit ih), ← Expr.length_fragmentsOfAll style arguments state.parameters]
    exact exitCall_apply fineAll name _ _
  | nested inner ih =>
    rw [visit, bind_of_ok (ih state)]
    exact exitNested_apply (fine inner _) _ _
  | cast inner type ih =>
    rw [visit, bind_of_ok (ih state)]
    exact exitCast_apply (fine inner _) type _ _
  | signed sign inner ih =>
    rw [visit, bind_of_ok (ih state)]
    exact exitSigned_apply (fine inner _) sign _ _
  | arithmetic op before behind ihLeft ihRight =>
    rw [visit, bind_of_ok (ihLeft state), bind_of_ok (ihRight _)]
    exact exitBinary_extended (fine before _) (fine behind _) "arithmetic" op.text state _ _
  | comparison op before behind ihLeft ihRight =>
    rw [visit, bind_of_ok (ihLeft state), bind_of_ok (ihRight _)]
    exact exitBinary_extended (fine before _) (fine behind _) "comparison" op.text state _ _
  | logical op before behind ihLeft ihRight =>
    rw [visit, bind_of_ok (ihLeft state), bind_of_ok (ihRight _)]
    exact exitBinary_extended (fine before _) (fine behind _) "logical" op.text state _ _
  | isNull inner negated ih =>
    rw [visit, bind_of_ok (ih state)]
    exact exitIsNull_apply (fine inner _) negated _ _

end Walk

end BulkSql
