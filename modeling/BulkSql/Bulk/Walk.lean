import BulkSql.Bulk.Fragment
import BulkSql.Syntax.Tree

/-! # Walking an expression

A tree is visited in post-order. A node is written when it is left, so the fragments of its parts lie on top of the
stack with the last part uppermost. Statements differ only in how parameters and columns are written.
-/

namespace BulkSql

/-- How the leaves of an expression are written. -/
structure LeafStyle where
  /-- the parameter with a number, counted from one in the order of the text -/
  placeholder : Nat → Fragment
  column : ColumnRef → Text

/-- The stack of a walk and the parameters met so far. -/
structure WalkState where
  stack : FragmentStack := []
  parameters : Nat := 0
deriving Repr

abbrev WalkStep (α : Type) := ExceptT StackError (StateM WalkState) α

namespace Walk

/-- A step on the stack of a walk. -/
def onStack {α : Type} (step : StackStep α) : WalkStep α := fun state =>
  match step state.stack with
  | (result, stack) => (result, { state with stack })

def push (fragment : Fragment) : WalkStep Unit := onStack (FragmentStack.push fragment)

def exitPlaceholder (style : LeafStyle) : WalkStep Unit := do
  modify fun state => { state with parameters := state.parameters + 1 }
  push (style.placeholder (← get).parameters)

def exitCall (name : Text) (count : Nat) : WalkStep Unit := do
  let arguments ← onStack (FragmentStack.popOperands count "function_call")
  push (.expr (name ++ "(" ++ Text.commaList arguments ++ ")"))

def exitNested : WalkStep Unit := do
  let inner ← onStack (FragmentStack.popOperand "nested")
  push (.expr ("(" ++ inner ++ ")"))

/-- A cast of a name fails as an operand does. -/
def exitCast (type : Text) : WalkStep Unit := do
  let fragment ← onStack (FragmentStack.pop "cast")
  match fragment.cast? type with
  | some cast => push cast
  | none =>
    push fragment
    let _ ← onStack (FragmentStack.popOperand "cast")

/-- A sign before an operand that starts with a sign is set apart from it, since two hyphens start a comment. -/
def exitSigned (sign : Sign) : WalkStep Unit := do
  let inner ← onStack (FragmentStack.popOperand "unary")
  let gap : Text := match inner with
    | '-' :: _ | '+' :: _ => [' ']
    | _ => []
  push (.expr (sign.text ++ gap ++ inner))

def exitBinary (rule op : Text) : WalkStep Unit := do
  let right ← onStack (FragmentStack.popOperand rule)
  let left ← onStack (FragmentStack.popOperand rule)
  push (.expr (left ++ " " ++ op ++ " " ++ right))

def exitIsNull (negated : Bool) : WalkStep Unit := do
  let inner ← onStack (FragmentStack.popOperand "is_null")
  push (.expr (inner ++ " " ++ if negated then "IS NOT NULL" else "IS NULL"))

mutual

/-- Visit an expression and leave its fragment on top of the stack. -/
def visit (style : LeafStyle) : Expr → WalkStep Unit
  | .placeholder => exitPlaceholder style
  | .literal literal => push (.expr literal.text)
  | .column column => push (.expr (style.column column))
  | .call name arguments => do
    visitAll style arguments
    exitCall name arguments.length
  | .nested inner => do
    visit style inner
    exitNested
  | .cast inner type => do
    visit style inner
    exitCast type
  | .signed sign inner => do
    visit style inner
    exitSigned sign
  | .arithmetic op left right => do
    visit style left
    visit style right
    exitBinary "arithmetic" op.text
  | .comparison op left right => do
    visit style left
    visit style right
    exitBinary "comparison" op.text
  | .logical op left right => do
    visit style left
    visit style right
    exitBinary "logical" op.text
  | .isNull inner negated => do
    visit style inner
    exitIsNull negated

def visitAll (style : LeafStyle) : List Expr → WalkStep Unit
  | [] => pure ()
  | first :: more => do
    visit style first
    visitAll style more

end

end Walk

end BulkSql
