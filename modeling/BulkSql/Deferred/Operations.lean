import BulkSql.Batch.Request
import BulkSql.Deferred.Statement

/-! # Operations on deferred statements

Values and rows are kept while the statement is deferred and go to the prepared statement once it is voided. After a
bulk execution only clearing and closing are left. What is refused says which operation the state does not allow.
-/

namespace BulkSql

namespace Deferred

variable {Connection Handle Rows : Type}

/-- A call on a statement together with its connection. -/
abbrev SessionCall (Connection Handle α : Type) := Call (Session Connection Handle) α

/-- Change the statement alone. -/
def modifyStatement (change : DeferredStatement Handle → DeferredStatement Handle) :
    SessionCall Connection Handle Unit :=
  modify fun session => { session with statement := change session.statement }

/-- A call on the row that is being built. -/
def onBindings (call : Call BindingTable α) : SessionCall Connection Handle α :=
  call.onPart (·.statement.bindings) fun session bindings =>
    { session with statement := { session.statement with bindings } }

def onConnection (call : Call Connection α) : SessionCall Connection Handle α :=
  call.onPart Session.connection fun session connection => { session with connection }

/-- A call on what the statement has prepared. -/
def onHandle (call : Call (Connection × Handle) α) : SessionCall Connection Handle α := do
  match (← get).statement.phase.handle? with
  | none => throw .closed
  | some handle =>
    call.onPart (fun session => (session.connection, handle)) fun session (connection, handle) =>
      { connection, statement := { session.statement with phase := session.statement.phase.withHandle handle } }

variable (client : Client Connection Handle Rows)

/-! ## Preparing -/

/-- Bring a voided statement up to date: kept rows go to its batch, then kept values are bound. -/
def load (rows : List (List SqlValue)) : SessionCall Connection Handle Unit := do
  onHandle (client.addRows rows)
  let records := (← get).statement.bindings.records
  modifyStatement fun statement => { statement with bindings := {} }
  onHandle (client.bindRecords records)

/-- Prepare the statement's own text, unless that is done. -/
def void : SessionCall Connection Handle Unit := do
  let statement := (← get).statement
  match statement.phase with
  | .deferred =>
    let handle ← onConnection (client.prepare statement.sql)
    modifyStatement fun statement => { statement with phase := .voided handle, batch := {} }
    load client statement.batch.valueRows
  | .voided _ => pure ()
  | phase => throw (.notAllowed "use the original statement of" phase.state)

/-- A call on the prepared statement, which voids the statement first. -/
def onVoided (call : Call (Connection × Handle) α) : SessionCall Connection Handle α := do
  void client
  onHandle call

/-! ## Parameters -/

def setValue (index : Nat) (value : SqlValue) : SessionCall Connection Handle Unit := do
  match (← get).statement.phase with
  | .deferred =>
    modifyStatement fun statement =>
      { statement with bindings := statement.bindings.set (.ofValue index value) }
  | .voided _ => onHandle (client.bind index value)
  | phase => throw (.notAllowed "bind" phase.state)

def setNull (index : Nat) (type : SqlType) : SessionCall Connection Handle Unit := setValue client index (.null type)

/-- Bind a value as what its type says. Nothing is a null without a type. A value without an SQL counterpart goes to
the prepared statement. -/
def setObject (index : Nat) (object? : Option HostValue) : SessionCall Connection Handle Unit :=
  match object? with
  | none => setNull client index .unknown
  | some object =>
    match object.classify? with
    | some value => setValue client index value
    | none => onVoided client (client.bindForeign index)

/-- A stream is read by the prepared statement, so it is never kept. -/
def setStream (index : Nat) (stream : Stream) : SessionCall Connection Handle Unit :=
  onVoided client (client.bindStream index stream)

def parameterTypes : SessionCall Connection Handle (List Text) := onVoided client client.parameterTypes

def clearParameters : SessionCall Connection Handle Unit := do
  match (← get).statement.phase with
  | .deferred | .bulkExecuted _ => modifyStatement fun statement => { statement with bindings := {} }
  | .voided _ => onHandle client.clearParameters
  | .closed => throw .closed

/-! ## Rows -/

/-- End the row that is being built. Its values are gone even if it is refused. -/
def addBatch : SessionCall Connection Handle Unit := do
  let statement := (← get).statement
  match statement.phase with
  | .deferred =>
    let row ← onBindings BindingTable.takeRow
    let batch ← MonadExcept.ofExcept (statement.batch.push row)
    modifyStatement fun statement => { statement with batch }
  | .voided _ => onHandle client.addBatch
  | phase => throw (.notAllowed "add a row to" phase.state)

def clearBatch : SessionCall Connection Handle Unit := do
  match (← get).statement.phase with
  | .deferred | .bulkExecuted _ => modifyStatement fun statement => { statement with batch := {} }
  | .voided _ => onHandle client.clearBatch
  | .closed => throw .closed

/-! ## Execution -/

/-- Bind one array for each column. -/
def bindColumns (columns : List Column) : SessionCall Connection Handle Unit :=
  (columns.zipIdx 1).forM fun (column, index) => do
    let array ← onConnection (client.createArray column.type.name column.values)
    onHandle (client.bind index (.ofArray array))

/-- Execute the kept rows as one bulk statement. It does not tell which rows were changed: if their number is not the
number of rows, all count as failed. -/
def executeBulk (bulk : BulkStatement) : SessionCall Connection Handle (List BatchOutcome) := do
  let batch := (← get).statement.batch
  modifyStatement fun statement => { statement with batch := {} }
  if batch.columns.length ≠ bulk.parameterCount then throw (.batchShape bulk.parameterCount batch.columns.length)
  let handle ← onConnection (client.prepare bulk.sql)
  modifyStatement fun statement => { statement with phase := .bulkExecuted handle }
  bindColumns client batch.columns
  let affected ← onHandle client.executeUpdate
  pure (List.replicate batch.rows (if affected.toNat = batch.rows then .noInfo else .failed))

/-- Execute the kept rows one by one. -/
def executeRows : SessionCall Connection Handle (List BatchOutcome) := do
  let statement := (← get).statement
  modifyStatement fun statement => { statement with batch := {} }
  let handle ← onConnection (client.prepare statement.sql)
  modifyStatement fun statement => { statement with phase := .voided handle }
  load client statement.batch.valueRows
  onHandle client.executeBatch

def executeBatch : SessionCall Connection Handle (List BatchOutcome) := do
  let statement := (← get).statement
  match statement.phase with
  | .deferred =>
    if statement.batch.isEmpty then pure []
    else
      match statement.bulk? with
      | some bulk => executeBulk client bulk
      | none => executeRows client
  | .voided _ => onHandle client.executeBatch
  | phase => throw (.notAllowed "execute a batch on" phase.state)

/-- Execute the rows, with their outcomes as numbers. -/
def executeLargeBatch : SessionCall Connection Handle (List Int) := do
  pure ((← executeBatch client).map BatchOutcome.code)

def executeUpdate : SessionCall Connection Handle UInt64 := onVoided client client.executeUpdate

def executeQuery : SessionCall Connection Handle Rows := onVoided client client.executeQuery

/-- Give up what was kept and what was prepared. Closing again does nothing. -/
def close : SessionCall Connection Handle Unit := do
  let prepared? := (← get).statement.phase.handle?
  modifyStatement fun statement => { statement with phase := .closed, bindings := {}, batch := {} }
  match prepared? with
  | some handle => onConnection (client.close handle)
  | none => pure ()

end Deferred

end BulkSql
