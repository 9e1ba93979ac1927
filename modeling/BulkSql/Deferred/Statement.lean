import BulkSql.Batch.ColumnBatch
import BulkSql.Client
import BulkSql.Settings

/-! # Deferred statements

A deferred statement prepares nothing until it is known how it is used. Rows of an INSERT, UPSERT or UPDATE are
executed as one bulk statement where the text allows it. Whatever needs a prepared statement earlier voids the
statement: its own text is prepared, takes over all that was kept, and gets every call from then on.
-/

namespace BulkSql

/-- Where a statement is, with what it has prepared. -/
inductive Phase (Handle : Type) where
  | deferred
  | voided (handle : Handle)
  | bulkExecuted (handle : Handle)
  | closed

namespace Phase

def state : Phase Handle → StatementState
  | deferred => .deferred
  | voided _ => .voided
  | bulkExecuted _ => .bulkExecuted
  | closed => .closed

def handle? : Phase Handle → Option Handle
  | voided handle | bulkExecuted handle => some handle
  | deferred | closed => none

/-- The phase after a call on what was prepared. -/
def withHandle (handle : Handle) : Phase Handle → Phase Handle
  | voided _ => voided handle
  | bulkExecuted _ => bulkExecuted handle
  | phase => phase

end Phase

structure DeferredStatement (Handle : Type) where
  sql : Text
  settings : Settings
  phase : Phase Handle := .deferred
  /-- values of the row that is being built -/
  bindings : BindingTable := {}
  /-- rows that are not yet executed -/
  batch : ColumnBatch := {}

namespace DeferredStatement

def state (statement : DeferredStatement Handle) : StatementState := statement.phase.state

/-- The bulk form that rows are executed in, if the kind of the statement is enabled and the text has a bulk form.
Without a parameter there is nothing to take apart, every row is the same statement. -/
def bulk? (statement : DeferredStatement Handle) : Option BulkStatement := do
  let kind ← StatementKind.detect? statement.sql
  if statement.settings.isEnabled kind then
    match Bulk.ofText statement.settings.derived kind statement.sql with
    | .ok bulk => if bulk.parameterCount = 0 then none else some bulk
    | .error _ => none
  else none

end DeferredStatement

/-- A statement and the connection it is prepared on. -/
structure Session (Connection Handle : Type) where
  connection : Connection
  statement : DeferredStatement Handle

end BulkSql
