import BulkSql.Text.Utf8

/-! # Failures of a Postgres client

What goes wrong between the client and its server. Each failure has a short text of its own and a cause that says
more.
-/

namespace BulkSql

/-- Why a value cannot be sent as a parameter of some type. -/
inductive EncodeError where
  /-- values of the kind are never sent as the type -/
  | incompatible (kind type : Text)
  | tooLarge
  | tooSmall
  /-- more elements than an array has room for, or more bytes than one of them has -/
  | tooLong
deriving DecidableEq, Repr

def EncodeError.message : EncodeError → Text
  | incompatible kind type => "cannot bind " ++ kind ++ " to a parameter of type " ++ type
  | tooLarge => "number too large to fit in target type"
  | tooSmall => "number too small to fit in target type"
  | tooLong => "value too large to transmit"

/-- Why a connection string is refused. -/
inductive ConnectionStringError where
  | unknownOption (name : Text)
  | invalidValue (name : Text)
  | unterminatedParameter
  | unexpectedEnd
  | unterminatedQuote
  | unexpectedChar (offset : Nat) (found wanted : Char)
  | notUtf8 (refusal : Utf8.Refusal)
deriving DecidableEq, Repr

def ConnectionStringError.message : ConnectionStringError → Text
  | unknownOption name => "unknown option `" ++ name ++ "`"
  | invalidValue name => "invalid value for option `" ++ name ++ "`"
  | unterminatedParameter => "unterminated parameter"
  | unexpectedEnd => "unexpected EOF"
  | unterminatedQuote => "unterminated quoted connection parameter value"
  | unexpectedChar offset found wanted =>
    "unexpected character at byte " ++ Text.ofNat offset ++ ": expected `" ++ [wanted] ++ "` but got `" ++
      [found] ++ "`"
  | notUtf8 refusal => refusal.message

/-- Why options that are valid one by one do not fit each other. -/
inductive OptionMismatch where
  | noHost
  | addressCount (hosts addresses : Nat)
  | portCount
deriving DecidableEq, Repr

def OptionMismatch.message : OptionMismatch → Text
  | noHost => "both host and hostaddr are missing"
  | addressCount hosts addresses =>
    "number of hosts (" ++ Text.ofNat hosts ++ ") is different from number of hostaddrs (" ++
      Text.ofNat addresses ++ ")"
  | portCount => "invalid number of ports"

inductive PostgresFailure where
  /-- the server's answer is an error -/
  | server (code message : Text)
  /-- the parameter with a position counted from zero cannot be sent -/
  | parameter (position : Nat) (error : EncodeError)
  | connectionString (error : ConnectionStringError)
  | configuration (mismatch : OptionMismatch)
deriving DecidableEq, Repr

namespace PostgresFailure

def message : PostgresFailure → Text
  | server .. => "db error"
  | parameter position _ => "error serializing parameter " ++ Text.ofNat position
  | connectionString _ => "invalid connection string"
  | configuration _ => "invalid configuration"

/-- What lies behind the failure. -/
def cause : PostgresFailure → Text
  | server _ message => "ERROR: " ++ message
  | parameter _ error => error.message
  | connectionString error => error.message
  | configuration mismatch => mismatch.message

/-- The code that the server gave. -/
def code? : PostgresFailure → Option Text
  | server code _ => some code
  | _ => none

end PostgresFailure

end BulkSql
