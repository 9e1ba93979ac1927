import BulkSql.Batch.ColumnBatch
import BulkSql.Client

/-! # Requests to a batch

What ends a row and what is done with rows that were ended. The operations on a batch are data, so that a use of a batch
is a list of requests. A refused request does not end it.
-/

namespace BulkSql

/-- End the row that is being built. The table is empty afterwards, even if the row is refused. -/
def BindingTable.takeRow : Call BindingTable (List ParameterRecord) := do
  let table ← get
  modify fun _ => {}
  MonadExcept.ofExcept table.row

namespace ColumnBatch

/-- Add a row, if it fits. -/
def add (row : List ParameterRecord) : Call ColumnBatch Unit := do
  let batch ← MonadExcept.ofExcept ((← get).push row)
  set batch

/-- Empty the batch, which gives what it held. -/
def take : Call ColumnBatch ColumnBatch := do
  let batch ← get
  set ({} : ColumnBatch)
  pure batch

end ColumnBatch

inductive BatchRequest where
  | push (row : List ParameterRecord)
  | clear
  | take
  | takeRows

/-- What a request to a batch is answered with. -/
inductive BatchResponse where
  | done
  | columns (columns : List Column) (rows : Nat)
  | rows (rows : List (List SqlValue))

namespace BatchRequest

def perform : BatchRequest → Call ColumnBatch BatchResponse
  | push row => do
    ColumnBatch.add row
    pure .done
  | clear => do
    let _ ← ColumnBatch.take
    pure .done
  | take => do
    let batch ← ColumnBatch.take
    pure (.columns batch.columns batch.rows)
  | takeRows => do pure (.rows (← ColumnBatch.take).valueRows)

/-- The answer to a request, and the batch after it. -/
def answer (batch : ColumnBatch) (request : BatchRequest) : Except SqlError BatchResponse × ColumnBatch :=
  request.perform.run.run batch

/-- The batch after requests in order. -/
def after (batch : ColumnBatch) (requests : List BatchRequest) : ColumnBatch :=
  requests.foldl (fun batch request => (request.answer batch).2) batch

end BatchRequest

end BulkSql
