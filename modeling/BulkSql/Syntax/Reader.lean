import BulkSql.Syntax.Failure

/-! # Readers

A reader takes the start of a text and leaves the rest, or fails. A failure is recoverable, so that another branch
may be tried, or final. The combinators say which failures they let pass: a branch and an optional or repeated part
pass final failures on and swallow recoverable ones.
-/

namespace BulkSql

/-- What a reader makes of a text. -/
inductive Reply (α : Type) where
  | done (value : α) (rest : Text)
  | fail (why : Failure)
  | halt (why : Failure)
deriving Repr

def Reader (α : Type) := Text → Reply α

namespace Reader

variable {α β γ : Type}

/-- Take nothing and give a value. -/
def succeed (value : α) : Reader α := fun text => .done value text

/-- Read one thing, then what follows it. -/
def andThen (first : Reader α) (next : α → Reader β) : Reader β := fun text =>
  match first text with
  | .done value rest => next value rest
  | .fail why => .fail why
  | .halt why => .halt why

instance : Monad Reader where
  pure := succeed
  bind := andThen

/-- Try a second reader where the first fails, and keep both failures if it fails too. -/
def orElse (first second : Reader α) : Reader α := fun text =>
  match first text with
  | .fail why =>
    match second text with
    | .fail why' => .fail (.alternatives [why, why'])
    | reply => reply
  | reply => reply

/-- The first reader of a list that does not fail. -/
def firstOf : List (Reader α) → Reader α
  | [] => fun _ => .fail (.alternatives [])
  | reader :: readers => reader.orElse (firstOf readers)

/-- Take one or nothing. -/
def optional (reader : Reader α) : Reader (Option α) := fun text =>
  match reader text with
  | .done value rest => .done (some value) rest
  | .fail _ => .done none text
  | .halt why => .halt why

/-- Make failures final. -/
def commit (reader : Reader α) : Reader α := fun text =>
  match reader text with
  | .fail why => .halt why
  | reply => reply

/-- As many as there are. A part that takes nothing fails, since it could be repeated for ever. -/
def many (reader : Reader α) (text : Text) : Reply (List α) :=
  match reader text with
  | .done value rest =>
    if rest.length < text.length then
      match many reader rest with
      | .done values rest' => .done (value :: values) rest'
      | .fail why => .fail why
      | .halt why => .halt why
    else .fail (.leaf text .unnamed)
  | .fail _ => .done [] text
  | .halt why => .halt why
termination_by text.length

/-- A reader that calls itself, on shorter texts only. -/
def recursive (body : Reader α → Reader α) (text : Text) : Reply α :=
  body (fun rest => if rest.length < text.length then recursive body rest else .fail (.leaf rest .unnamed)) text
termination_by text.length

/-- A thing together with the text it starts. -/
def located (reader : Reader α) : Reader (Text × α) := fun text =>
  match reader text with
  | .done value rest => .done (text, value) rest
  | .fail why => .fail why
  | .halt why => .halt why

/-- A thing together with the text it takes. -/
def consumed (reader : Reader α) : Reader (Text × α) := fun text =>
  match reader text with
  | .done value rest => .done (text.take (text.length - rest.length), value) rest
  | .fail why => .fail why
  | .halt why => .halt why

/-- Say in every failure what was being read. -/
def named (what : Text) (reader : Reader α) : Reader α := fun text =>
  match reader text with
  | .fail why => .fail (.within what why)
  | .halt why => .halt (.within what why)
  | reply => reply

/-- Nothing is left. -/
def endOfInput : Reader Unit := fun text => if text.isEmpty then .done () text else .fail (.leaf text .endOfInput)

/-- An operator with its right operand. -/
def furtherOperand (operator : Reader β) (operand : Reader α) : Reader (β × α) := do
  let op ← operator
  let next ← operand
  pure (op, next)

/-- An operand, then operators with further operands, grouped from the left. -/
def chainLeft (operator : Reader β) (operand : Reader α) (build : β → α → α → α) : Reader α := do
  let first ← operand
  let more ← many (furtherOperand operator operand)
  pure (more.foldl (fun left (op, right) => build op left right) first)

/-- Signs before an operand, the last one closest to it. -/
def signsBefore (operator : Reader β) (operand : Reader α) (build : β → α → α) : Reader α := do
  let signs ← many operator
  let inner ← operand
  pure (signs.foldr build inner)

/-- An operand, then marks behind it, the first one closest to it. -/
def marksAfter (operand : Reader α) (mark : Reader β) (build : α → β → α) : Reader α := do
  let inner ← operand
  let marks ← many mark
  pure (marks.foldl build inner)

/-- A separator with the item behind it. The separator commits to that item, so a bad item is reported where it starts
and not at the separator. -/
def furtherItem (separator : Reader β) (item : Reader α) : Reader α := do
  let _ ← separator
  commit item

/-- One or more items with separators between. -/
def separated (separator : Reader β) (item : Reader α) : Reader (List α) := do
  let first ← item
  let more ← many (furtherItem separator item)
  pure (first :: more)

end Reader

end BulkSql
