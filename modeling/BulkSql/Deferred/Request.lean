import BulkSql.Deferred.Operations

/-! # Requests to a deferred statement

The operations on a deferred statement as data, so that a use of a statement is a list of requests. A refused request
does not end it.
-/

namespace BulkSql

inductive Request where
  | setValue (index : Nat) (value : SqlValue)
  | setNull (index : Nat) (type : SqlType)
  | setObject (index : Nat) (object? : Option HostValue)
  | setStream (index : Nat) (stream : Stream)
  | parameterTypes
  | clearParameters
  | addBatch
  | clearBatch
  | executeBatch
  | executeLargeBatch
  | executeUpdate
  | executeQuery
  | close

/-- What a request is answered with. -/
inductive Response (Rows : Type) where
  | done
  | types (names : List Text)
  | outcomes (outcomes : List BatchOutcome)
  | codes (codes : List Int)
  | changed (rows : UInt64)
  | rows (rows : Rows)

namespace Request

variable {Connection Handle Rows : Type} (client : Client Connection Handle Rows)

open Deferred

def perform : Request → SessionCall Connection Handle (Response Rows)
  | setValue index value => do
    Deferred.setValue client index value
    pure .done
  | setNull index type => do
    Deferred.setNull client index type
    pure .done
  | setObject index object? => do
    Deferred.setObject client index object?
    pure .done
  | setStream index stream => do
    Deferred.setStream client index stream
    pure .done
  | parameterTypes => do pure (.types (← Deferred.parameterTypes client))
  | clearParameters => do
    Deferred.clearParameters client
    pure .done
  | addBatch => do
    Deferred.addBatch client
    pure .done
  | clearBatch => do
    Deferred.clearBatch client
    pure .done
  | executeBatch => do pure (.outcomes (← Deferred.executeBatch client))
  | executeLargeBatch => do pure (.codes (← Deferred.executeLargeBatch client))
  | executeUpdate => do pure (.changed (← Deferred.executeUpdate client))
  | executeQuery => do pure (.rows (← Deferred.executeQuery client))
  | close => do
    Deferred.close client
    pure .done

/-- The answer to a request, and the session after it. -/
def answer (session : Session Connection Handle) (request : Request) :
    Except SqlError (Response Rows) × Session Connection Handle := (request.perform client).run.run session

/-- The answers to requests in order, and the session after all of them. -/
def answerAll (session : Session Connection Handle) :
    List Request → List (Except SqlError (Response Rows)) × Session Connection Handle
  | [] => ([], session)
  | request :: requests =>
    let (result, after) := request.answer client session
    let (results, last) := answerAll after requests
    (result :: results, last)

end Request

end BulkSql
