import BulkSql.Error
import BulkSql.Value.SqlValue

/-! # Parameter slots

A prepared statement has one slot for each parameter. Adding a row to its batch copies the slots and leaves them
bound; a step that fails leaves slots and batch as they were.
-/

namespace BulkSql

structure ParameterSlots where
  slots : List (Option SqlValue)
  batch : List (List SqlValue) := []

namespace ParameterSlots

/-- A number of slots, none of them bound. -/
def ofCount (count : Nat) : ParameterSlots where
  slots := List.replicate count none

def outOfRange (index count : Nat) : SqlError :=
  .client ("Parameter index " ++ Text.ofNat index ++ " is out of range, the statement has " ++ Text.ofNat count ++
    " parameters") none

/-- Bind the slot with an index, counted from one. -/
def bind (slots : ParameterSlots) (index : Nat) (value : SqlValue) : Except SqlError ParameterSlots :=
  if 0 < index ∧ index ≤ slots.slots.length then .ok { slots with slots := slots.slots.set (index - 1) (some value) }
  else .error (outOfRange index slots.slots.length)

/-- The values of slots, if all are bound. The first that is not is reported; they are counted from the given index. -/
def valuesFrom : (index : Nat) → List (Option SqlValue) → Except SqlError (List SqlValue)
  | _, [] => .ok []
  | index, none :: _ => .error (.missingParameter index)
  | index, some value :: slots => (valuesFrom (index + 1) slots).map (value :: ·)

def row (slots : ParameterSlots) : Except SqlError (List SqlValue) := valuesFrom 1 slots.slots

/-- Unbind all slots. -/
def clear (slots : ParameterSlots) : ParameterSlots := { slots with slots := slots.slots.map fun _ => none }

def addBatch (slots : ParameterSlots) : Except SqlError ParameterSlots := do
  let row ← slots.row
  pure { slots with batch := slots.batch ++ [row] }

def clearBatch (slots : ParameterSlots) : ParameterSlots := { slots with batch := [] }

end ParameterSlots

end BulkSql
