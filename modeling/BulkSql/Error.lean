import BulkSql.Numbering
import BulkSql.Postgres.Failure
import BulkSql.Syntax.ParseError
import BulkSql.Text.Quoted
import BulkSql.Url.Error
import BulkSql.Value.SqlType

/-! # Errors

All that a call on this library can fail with. An error of another layer keeps its own text and stands behind the
error as its cause.
-/

namespace BulkSql

/-- Where a statement is between its creation and its closing. -/
inductive StatementState where
  /-- nothing is prepared, values and rows are kept -/
  | deferred
  /-- the statement's own text is prepared and takes every call -/
  | voided
  /-- the rows were executed as one bulk statement -/
  | bulkExecuted
  | closed
deriving DecidableEq, Repr

def StatementState.label : StatementState → Text
  | deferred => "Deferred"
  | voided => "Voided"
  | bulkExecuted => "BatchRewritten"
  | closed => "Closed"

inductive SqlError where
  | parse (error : ParseError)
  | numbering (refusal : Numbering.Refusal)
  /-- a row is not as wide as the rows before it, or the rows do not fill the parameters of the bulk statement -/
  | batchShape (expected found : Nat)
  /-- a value cannot share an array with the values above it -/
  | columnType (index : Nat) (expected found : SqlType)
  | missingParameter (index : Nat)
  /-- an operation that the state of the statement does not allow -/
  | statementState (operation : Text) (state : StatementState)
  | closed
  | postgres (failure : PostgresFailure)
  /-- what a client reports in its own words -/
  | client (message : Text) (code? : Option Text)
  | invalidSetting (key value : Text)
  | invalidUrl (error : UrlError)
  | unsupportedValue (what : Text)
deriving DecidableEq, Repr

namespace SqlError

def message : SqlError → Text
  | parse error => error.describe
  | numbering refusal => refusal.message
  | batchShape expected found =>
    "Inconsistent batch shape: expected " ++ Text.ofNat expected ++ " columns, found " ++ Text.ofNat found
  | columnType index expected found =>
    "Inconsistent batch column " ++ Text.ofNat index ++ ": expected " ++ expected.label ++ ", found " ++ found.label
  | missingParameter index => "No value specified for parameter " ++ Text.ofNat index
  | statementState operation state => "Cannot " ++ operation ++ " a statement in state " ++ state.label
  | closed => "Statement is closed"
  | postgres failure => failure.message
  | client message none => message
  | client message (some code) => message ++ " (SQLSTATE " ++ code ++ ")"
  | invalidSetting key value => "Invalid value " ++ Text.quoted value ++ " for setting " ++ key
  | invalidUrl error => "Invalid connection url: " ++ error.message
  | unsupportedValue what => "Unsupported parameter value: " ++ what

/-- The texts of what lies behind the error, the nearest first. -/
def causes : SqlError → List Text
  | parse error => [error.describe]
  | postgres failure => [failure.message, failure.cause]
  | invalidUrl error => [error.message]
  | _ => []

/-- The code that the database gave. -/
def code? : SqlError → Option Text
  | postgres failure => failure.code?
  | client _ code? => code?
  | _ => none

/-- The transaction lost against another one and may be run again as a whole. -/
def isSerializationFailure (error : SqlError) : Bool := error.code? == some "40001".toList

/-- What a statement in a state answers to an operation that the state does not allow. -/
def notAllowed (operation : Text) : StatementState → SqlError
  | .closed => closed
  | state => statementState operation state

end SqlError

end BulkSql
