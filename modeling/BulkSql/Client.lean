import BulkSql.Batch.Bindings

/-! # Database clients

What a deferred statement asks of the client behind it: a connection that prepares statements, and prepared
statements that take parameters and are executed. Everything that holds for all clients is stated over this interface.
-/

namespace BulkSql

/-- What one row of a batch came to. -/
inductive BatchOutcome where
  /-- executed, but it is not known how many rows were changed -/
  | noInfo
  | updated (rows : UInt64)
  | failed
deriving DecidableEq, Repr

/-- The outcome as a number. A count that is too large for a number with a sign is the largest such number. -/
def BatchOutcome.code : BatchOutcome → Int
  | noInfo => -2
  | updated rows => min rows.toNat (Nat.pow 2 63 - 1)
  | failed => -3

inductive StreamKind where
  | binary | character
deriving DecidableEq, Repr

/-- A value that is read when it is bound. Reading may fail with a message. -/
structure Stream where
  kind : StreamKind
  content : Except Text Bytes

/-- A call that reads and changes a state. A failed call leaves a state too. -/
abbrev Call (State α : Type) := ExceptT SqlError (StateM State) α

/-- A call on part of a state. -/
def Call.onPart {State Part α : Type} (part : State → Part) (put : State → Part → State) (call : Call Part α) :
    Call State α :=
  ExceptT.mk fun state =>
    let (result, after) := call.run.run (part state)
    (result, put state after)

/-- A connection of type `Connection` with prepared statements of type `Handle`. Parameters are counted from one. -/
structure Client (Connection Handle Rows : Type) where
  /-- prepare a statement with placeholders -/
  prepare (sql : Text) : Call Connection Handle
  /-- an array of values with an element type, given by its name -/
  createArray (typeName : Text) (values : List SqlValue) : Call Connection ArrayValue
  bind (index : Nat) (value : SqlValue) : Call (Connection × Handle) Unit
  bindStream (index : Nat) (stream : Stream) : Call (Connection × Handle) Unit
  /-- bind a value that has no SQL counterpart -/
  bindForeign (index : Nat) : Call (Connection × Handle) Unit
  clearParameters : Call (Connection × Handle) Unit
  /-- add the bound parameters to the prepared statement's own batch -/
  addBatch : Call (Connection × Handle) Unit
  clearBatch : Call (Connection × Handle) Unit
  executeBatch : Call (Connection × Handle) (List BatchOutcome)
  /-- the number of rows that were changed -/
  executeUpdate : Call (Connection × Handle) UInt64
  executeQuery : Call (Connection × Handle) Rows
  /-- the names of the parameters' types -/
  parameterTypes : Call (Connection × Handle) (List Text)
  /-- give the prepared statement up -/
  close (handle : Handle) : Call Connection Unit

namespace Client

variable {Connection Handle Rows : Type} (client : Client Connection Handle Rows)

/-- Bind values at one, two and so on. -/
def bindRow (row : List SqlValue) : Call (Connection × Handle) Unit :=
  (row.zipIdx 1).forM fun (value, index) => client.bind index value

/-- Add rows to the prepared statement's batch. -/
def addRows (rows : List (List SqlValue)) : Call (Connection × Handle) Unit :=
  rows.forM fun row => do
    client.bindRow row
    client.addBatch

/-- Bind the value of a record at its index. -/
def bindRecord (record : ParameterRecord) : Call (Connection × Handle) Unit := client.bind record.index record.value

/-- Bind the values of records in order. -/
def bindRecords (records : List ParameterRecord) : Call (Connection × Handle) Unit := records.forM client.bindRecord

end Client

end BulkSql
