import BulkSql.Postgres.Failure
import BulkSql.Url.Address

/-! # Connection options

What a Postgres client is told about the server it connects to. Options come one by one and each is checked by
itself; whether hosts, addresses and ports fit each other is checked at the end.
-/

namespace BulkSql

/-- Where to connect to. All other options are only checked. -/
structure ConnectionOptions where
  /-- names of hosts, or paths of sockets, which need not be text -/
  hosts : List Bytes := []
  addresses : List Text := []
  ports : List Nat := []
deriving DecidableEq, Repr

namespace ConnectionOptions

/-- Options that may have any value. -/
def isFree (key : Text) : Bool :=
  ["user", "password", "dbname", "options", "application_name"].contains (String.ofList key)

/-- Options with a number as their value. -/
def numberRule? (key : Text) : Option (Text → Bool) :=
  match String.ofList key with
  | "connect_timeout" | "tcp_user_timeout" | "keepalives_idle" | "keepalives_interval" =>
    some fun value => (Text.integer64? value).isSome
  | "keepalives" => some fun value => (Text.numberBelow? (Nat.pow 2 64) value).isSome
  | "keepalives_retries" => some fun value => (Text.numberBelow? (Nat.pow 2 32) value).isSome
  | _ => none

/-- Options with one of some words as their value. -/
def words? (key : Text) : Option (List String) :=
  match String.ofList key with
  | "sslmode" | "channel_binding" => some ["disable", "prefer", "require"]
  | "sslnegotiation" => some ["postgres", "direct"]
  | "target_session_attrs" => some ["any", "read-write", "read-only"]
  | "load_balance_hosts" => some ["disable", "random"]
  | _ => none

/-- The value of an option that does not say where to connect to. -/
def isValid? (key value : Text) : Option Bool :=
  if isFree key then some true
  else
    match numberRule? key with
    | some rule => some (rule value)
    | none => (words? key).map fun words => words.contains (String.ofList value)

def isAddress (text : Text) : Bool := (Address.dottedGroups? text).isSome || (Address.ipv6? text).isSome

/-- A port. Where none is written it is the standard one. -/
def port? (text : Text) : Option Nat := if text.isEmpty then some 5432 else Text.numberBelow? 65536 text

/-- The options with one more. -/
def add (options : ConnectionOptions) (key value : Text) : Except ConnectionStringError ConnectionOptions :=
  let refused := Except.error (.invalidValue key)
  if key = "host".toList then
    .ok { options with hosts := options.hosts ++ (Text.split ',' value).map Utf8.encode }
  else if key = "hostaddr".toList then
    let addresses := Text.split ',' value
    if addresses.all isAddress then .ok { options with addresses := options.addresses ++ addresses } else refused
  else if key = "port".toList then
    match (Text.split ',' value).mapM port? with
    | some ports => .ok { options with ports := options.ports ++ ports }
    | none => refused
  else
    match isValid? key value with
    | some true => .ok options
    | some false => refused
    | none => .error (.unknownOption key)

/-- Hosts, addresses and ports are lists of one length, but one of the first two may be left out, and one port will do
for all. -/
def check (options : ConnectionOptions) : Except OptionMismatch Unit :=
  let hosts := options.hosts.length
  let addresses := options.addresses.length
  let ports := options.ports.length
  if hosts = 0 ∧ addresses = 0 then .error .noHost
  else if 0 < hosts ∧ 0 < addresses ∧ hosts ≠ addresses then .error (.addressCount hosts addresses)
  else if 1 < ports ∧ ports ≠ max hosts addresses then .error .portCount
  else .ok ()

end ConnectionOptions

end BulkSql
