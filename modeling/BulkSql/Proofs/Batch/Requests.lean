import BulkSql.Batch.Request
import BulkSql.Proofs.Batch.RecordRows
import BulkSql.Proofs.Deferred.Calls

/-! # A batch answers as the rows it took

After any requests a batch is the transposed list of the rows that it took since it was last emptied, and answers as this
list would. A refused row is not one of them, so it leaves columns, types and the number of rows as they were.
-/

namespace BulkSql

/-- What a request makes of the rows that a batch took. -/
def RecordRows.after (rows : RecordRows) : BatchRequest → RecordRows
  | .push row => if (rows.refusal? row).isSome then rows else rows ++ [row]
  | .clear | .take | .takeRows => []

/-- The rows that a new batch took since requests last emptied it. -/
def RecordRows.taken (requests : List BatchRequest) : RecordRows := requests.foldl RecordRows.after []

namespace BatchRequest

variable {batch extended : ColumnBatch} {rows : RecordRows} {row : List ParameterRecord} {error : SqlError}

/-- A row that is not pushed leaves the batch. -/
theorem answer_push_of_error (failed : batch.push row = .error error) :
    (push row).answer batch = (.error error, batch) := by
  have added : Call.on (ColumnBatch.add row) batch = (.error error, batch) := by
    rw [ColumnBatch.add, Call.on_bind_ok (Call.on_get batch), Call.on_bind_error (by rw [Call.on_ofExcept, failed])]
  exact Call.on_bind_error added _

theorem answer_push_of_ok (pushed : batch.push row = .ok extended) :
    (push row).answer batch = (.ok .done, extended) := by
  have added : Call.on (ColumnBatch.add row) batch = (.ok (), extended) := by
    rw [ColumnBatch.add, Call.on_bind_ok (Call.on_get batch), Call.on_bind_ok (by rw [Call.on_ofExcept, pushed])]
    rfl
  exact Call.on_bind_ok added _

/-- After a request a batch holds what the request makes of its rows. -/
theorem transposes_answer (same : batch.Transposes rows) (request : BatchRequest) :
    (request.answer batch).2.Transposes (rows.after request) := by
  cases request with
  | push row =>
    rcases same.push_cases row with ⟨error, refused, failed⟩ | ⟨fits, extended, pushed, transposes⟩
    · rw [answer_push_of_error failed, RecordRows.after, refused, Option.isSome_some, if_pos rfl]
      exact same
    · rw [answer_push_of_ok pushed, RecordRows.after, fits]
      exact transposes
  | clear | take | takeRows => exact ColumnBatch.transposes_nil

theorem transposes_after (requests : List BatchRequest) : (after {} requests).Transposes (RecordRows.taken requests) := by
  have run : ∀ (requests : List BatchRequest) (batch : ColumnBatch) (rows : RecordRows), batch.Transposes rows →
      (after batch requests).Transposes (requests.foldl RecordRows.after rows) := by
    intro requests
    induction requests with
    | nil => exact fun _ _ same => same
    | cons request requests ih => exact fun _ _ same => ih _ _ (transposes_answer same request)
  exact run requests {} [] ColumnBatch.transposes_nil

/-- Whatever was requested of a new batch: its columns are the rows it took since it was last emptied, transposed, each with
one value for every row. A row is refused for the first reason there is and then leaves the batch as it is. The requests
that empty the batch give its columns, or its rows. -/
theorem answer_after (requests : List BatchRequest) :
    let batch := after {} requests
    let rows := RecordRows.taken requests
    batch.columns = rows.columns ∧ batch.rows = rows.length ∧
      (∀ column ∈ batch.columns, column.values.length = batch.rows) ∧
      (∀ row error, rows.refusal? row = some error → (push row).answer batch = (.error error, batch)) ∧
      (∀ row, rows.refusal? row = none → ((push row).answer batch).1 = .ok .done) ∧
      clear.answer batch = (.ok .done, {}) ∧
      take.answer batch = (.ok (.columns rows.columns rows.length), {}) ∧
      takeRows.answer batch = (.ok (.rows (rows.map ParameterRecord.values)), {}) := by
  intro batch rows
  have same : batch.Transposes rows := transposes_after requests
  refine ⟨same.columns, same.count, batch.aligned, fun row error refused => ?_, fun row fits => ?_, rfl, ?_, ?_⟩
  · rcases same.push_cases row with ⟨error', refused', failed⟩ | ⟨fits, -⟩
    · cases refused.symm.trans refused'
      exact answer_push_of_error failed
    · cases refused.symm.trans fits
  · rcases same.push_cases row with ⟨error, refused, -⟩ | ⟨-, extended, pushed, -⟩
    · cases refused.symm.trans fits
    · rw [answer_push_of_ok pushed]
  · rw [← same.columns, ← same.count]
    rfl
  · rw [← same.valueRows_eq]
    rfl

/-- Rows without values are counted, too. -/
example : (takeRows.answer (after {} [.push [], .push []])).1 = .ok (.rows [[], []]) := rfl

end BatchRequest

end BulkSql
