import BulkSql.Client
import BulkSql.Postgres.Parameter
import BulkSql.Postgres.Slots

/-! # The Postgres client

A client that speaks to a server which takes numbered placeholders and binary parameters. Parameters are encoded
before anything is sent.
-/

namespace BulkSql

/-- What an execution came to: how it is summed up, and how many rows it gave back. -/
structure Execution where
  /-- the command and, as its last word, the number of rows it changed -/
  summary : Text
  rows : Nat
deriving DecidableEq, Repr

/-- The number of changed rows in a summary. What is no 64-bit number counts as none. -/
def Execution.changedRows (execution : Execution) : UInt64 :=
  let last := (execution.summary.reverse.takeWhile (· != ' ')).reverse
  UInt64.ofNat ((Text.numberBelow? (Nat.pow 2 64) last).getD 0)

/-- A server over a connection of type `Connection`, which knows prepared statements by their `Name`. -/
structure PgServer (Connection Name : Type) where
  /-- prepare a statement with numbered placeholders; the answer has the types of its parameters -/
  prepare (sql : Text) : Call Connection (Name × List PgType)
  execute (name : Name) (parameters : List WireValue) : Call Connection Execution

structure PgStatement (Name : Type) where
  name : Name
  types : List PgType
  slots : ParameterSlots

/-- A statement that was just prepared: nothing is bound. -/
def PgStatement.fresh {Name : Type} (name : Name) (types : List PgType) : PgStatement Name where
  name
  types
  slots := .ofCount types.length

namespace PgServer

variable {Connection Name : Type} (server : PgServer Connection Name)

/-- Every placeholder that was numbered is a parameter. Where none was, the text had its own numbers. -/
def checkCount (placeholders parameters : Nat) : Except SqlError Unit :=
  if 0 < placeholders ∧ placeholders ≠ parameters then
    .error (.client ("Statement has " ++ Text.ofNat placeholders ++ " placeholders but " ++ Text.ofNat parameters ++
      " parameters") none)
  else .ok ()

def prepareStatement (sql : Text) : Call Connection (PgStatement Name) := do
  let numbered ← MonadExcept.ofExcept ((Numbering.number sql).mapError .numbering)
  let (name, types) ← server.prepare numbered.sql
  MonadExcept.ofExcept (checkCount numbered.count types.length)
  pure (.fresh name types)

def createArray (typeName : Text) (values : List SqlValue) : Except SqlError ArrayValue :=
  match SqlType.ofName? typeName with
  | some element => .ok { element, elements := values }
  | none => .error (.unsupportedValue ("array of " ++ typeName))

/-- A stream that is read to its end. Characters must be UTF-8. -/
def readStream (stream : Stream) : Except SqlError SqlValue :=
  match stream.content with
  | .error message => .error (.client message none)
  | .ok bytes =>
    match stream.kind with
    | .binary => .ok (.bytes bytes)
    | .character =>
      match Utf8.decode bytes with
      | .ok text => .ok (.string text)
      | .error _ => .error (.client "stream did not contain valid UTF-8" none)

/-- A call on a statement of the server. -/
abbrev StatementCall (Connection Name α : Type) := Call (Connection × PgStatement Name) α

/-- Change the slots of a statement. -/
def modifySlots (change : ParameterSlots → Except SqlError ParameterSlots) : StatementCall Connection Name Unit := do
  let (connection, statement) ← get
  let slots ← MonadExcept.ofExcept (change statement.slots)
  set (connection, { statement with slots })

/-- Execute a statement with a row of values. -/
def executeRow (row : List SqlValue) : StatementCall Connection Name Execution := do
  let statement := (← get).2
  let parameters ← MonadExcept.ofExcept ((Wire.encodeAll 0 row statement.types).mapError .postgres)
  (server.execute statement.name parameters).onPart Prod.fst fun state connection => (connection, state.2)

/-- Execute a statement with what is bound. -/
def executeBound : StatementCall Connection Name Execution := do
  let row ← MonadExcept.ofExcept (← get).2.slots.row
  server.executeRow row

/-- Execute the rows of the batch one by one. The batch is empty afterwards, even if one of them fails. -/
def executeBatch : StatementCall Connection Name (List BatchOutcome) := do
  let rows := (← get).2.slots.batch
  modifySlots fun slots => .ok slots.clearBatch
  rows.mapM fun row => do pure (.updated (← server.executeRow row).changedRows)

/-- The server as the client behind deferred statements. A query is answered with the number of its rows. -/
def client : Client Connection (PgStatement Name) Nat where
  prepare := server.prepareStatement
  createArray typeName values := MonadExcept.ofExcept (createArray typeName values)
  bind index value := modifySlots fun slots => slots.bind index value
  bindStream index stream := do
    let value ← MonadExcept.ofExcept (readStream stream)
    modifySlots fun slots => slots.bind index value
  bindForeign index :=
    throw (.unsupportedValue ("value of an unknown type at parameter " ++ Text.ofNat index))
  clearParameters := modifySlots fun slots => .ok slots.clear
  addBatch := modifySlots ParameterSlots.addBatch
  clearBatch := modifySlots fun slots => .ok slots.clearBatch
  executeBatch := server.executeBatch
  executeUpdate := do pure (← server.executeBound).changedRows
  executeQuery := do pure (← server.executeBound).rows
  parameterTypes := do pure ((← get).2.types.map PgType.label)
  close _ := pure ()

end PgServer

end BulkSql
