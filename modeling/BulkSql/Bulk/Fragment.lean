import BulkSql.Text.Basic

/-! # Fragments

The written form of a tree is put together bottom up on a stack of fragments. A parameter stays unwritten until it is
known whether it is an operand or a whole column. Popping what is not there, or a fragment of the wrong kind, is an
error that shows the stack; the fragments popped on the way are gone.
-/

namespace BulkSql

/-- The written form of an expression whose surroundings are not yet written. -/
inductive Fragment where
  /-- a parameter, with the casts applied to it directly -/
  | placeholder (casts? : Option Text)
  | expr (text : Text)
  /-- a column that is assigned to -/
  | name (text : Text)
deriving DecidableEq, Repr

namespace Fragment

/-- What kind of fragment it is, in messages. -/
def kind : Fragment → Text
  | placeholder _ => "placeholder"
  | expr _ => "expression"
  | name _ => "name"

/-- The fragment as an operand: a parameter becomes one element of a bound array. A name is no operand. -/
def operand? : Fragment → Option Text
  | placeholder none => some "unnest(?)"
  | placeholder (some casts) => some ("unnest(?)::" ++ casts)
  | expr text => some text
  | name _ => none

/-- The fragment in messages. -/
def text : Fragment → Text
  | placeholder none => "?"
  | placeholder (some casts) => "?::" ++ casts
  | expr text => text
  | name text => text

/-- A fragment under one more cast. Casts of a parameter are gathered, so that it stays a parameter. -/
def cast? (type : Text) : Fragment → Option Fragment
  | placeholder none => some (placeholder (some type))
  | placeholder (some casts) => some (placeholder (some (casts ++ "::" ++ type)))
  | expr text => some (expr (text ++ "::" ++ type))
  | name _ => none

end Fragment

/-- Fragments with the last one pushed at the head. -/
abbrev FragmentStack := List Fragment

/-- A stack that does not hold what a rule of the grammar left on it. Stacks are given in the order of pushing. -/
inductive StackError where
  | underflow (rule : Text) (stack : List Fragment)
  | typeMismatch (rule wanted : Text) (found : Fragment) (stack : List Fragment)
  | leftover (rule : Text) (stack : List Fragment)
deriving DecidableEq, Repr

namespace StackError

def stackText (stack : List Fragment) : Text :=
  "[" ++ Text.commaList (stack.map fun fragment => "`" ++ fragment.text ++ "`") ++ "]"

def message : StackError → Text
  | underflow rule stack => "stack underflow in " ++ rule ++ ", stack: " ++ stackText stack
  | typeMismatch rule wanted found stack =>
    "expected " ++ wanted ++ " in " ++ rule ++ ", found " ++ found.kind ++ " `" ++ found.text ++ "`, stack: " ++
      stackText stack
  | leftover rule stack => "fragments left over after " ++ rule ++ ", stack: " ++ stackText stack

end StackError

/-- A step on a stack, which may fail but always leaves a stack. -/
abbrev StackStep (α : Type) := ExceptT StackError (StateM FragmentStack) α

namespace FragmentStack

def push (fragment : Fragment) : StackStep Unit := modify (fragment :: ·)

def pop (rule : Text) : StackStep Fragment := do
  match ← get with
  | fragment :: stack =>
    set stack
    pure fragment
  | [] => throw (.underflow rule [])

/-- Pop a number of fragments, which are given in the order of pushing. Too few are left alone. -/
def popMany (count : Nat) (rule : Text) : StackStep (List Fragment) := do
  let stack ← get
  if stack.length < count then throw (.underflow rule stack.reverse)
  set (stack.drop count)
  pure (stack.take count).reverse

/-- A popped fragment as an operand. -/
def asOperand (rule : Text) (fragment : Fragment) : StackStep Text := do
  match fragment.operand? with
  | some text => pure text
  | none => throw (.typeMismatch rule "expression" fragment (← get).reverse)

def popOperand (rule : Text) : StackStep Text := do asOperand rule (← pop rule)

/-- Pop a number of operands. The first that is none is reported once all are popped. -/
def popOperands (count : Nat) (rule : Text) : StackStep (List Text) := do
  (← popMany count rule).mapM (asOperand rule)

def popName (rule : Text) : StackStep Text := do
  match ← pop rule with
  | .name text => pure text
  | found => throw (.typeMismatch rule "name" found (← get).reverse)

def ensureEmpty (rule : Text) : StackStep Unit := do
  let stack ← get
  if stack.isEmpty then pure () else throw (.leftover rule stack.reverse)

end FragmentStack

end BulkSql
