import BulkSql.Domain.Basic
import BulkSql.Url.Address
import BulkSql.Url.Error

/-! # Hosts of urls

The host of a special scheme is the ASCII form of a domain name or an IPv4 address; of another scheme it is kept as it
is. In brackets it is an IPv6 address.
-/

namespace BulkSql

/-- Schemes whose urls are read by stricter rules, with the port each of them means. -/
inductive SchemeClass where
  | special (standardPort : Nat)
  | file
  | other
deriving DecidableEq, Repr

namespace SchemeClass

def ofScheme (scheme : Text) : SchemeClass :=
  if scheme = "http".toList ∨ scheme = "ws".toList then special 80
  else if scheme = "https".toList ∨ scheme = "wss".toList then special 443
  else if scheme = "ftp".toList then special 21
  else if scheme = "file".toList then file
  else other

def isSpecial : SchemeClass → Bool
  | special _ | file => true
  | other => false

/-- Special schemes take a backslash for a slash. -/
def isSlash (scheme : SchemeClass) (c : Char) : Bool := c == '/' || (scheme.isSpecial && c == '\\')

end SchemeClass

namespace Host

/-- Control characters. -/
def isControl (c : Char) : Bool := c.toNat < 0x20 || c.toNat == 0x7f

/-- Characters that no host may hold. -/
def isForbidden (c : Char) : Bool :=
  c == '\x00' || c == '\t' || c == '\n' || c == '\r' || c == ' ' || c == '#' || c == '/' || c == ':' || c == '<' ||
    c == '>' || c == '?' || c == '@' || c == '[' || c == '\\' || c == ']' || c == '^' || c == '|'

/-- Characters that no domain may hold. -/
def isForbiddenInDomain (c : Char) : Bool := isForbidden c || isControl c || c == '%'

/-- What stands between brackets. -/
def bracketed? : Text → Option (Except UrlError Text)
  | '[' :: rest =>
    if rest.getLast? = some ']' then
      match Address.ipv6? rest.dropLast with
      | some groups => some (.ok ('[' :: Address.ipv6Text groups ++ [']']))
      | none => some (.error .invalidIpv6)
    else some (.error .invalidIpv6)
  | _ => none

/-- The host of a scheme that is not special. -/
def readOther (host : Text) : Except UrlError Text :=
  match bracketed? host with
  | some address => address
  | none =>
    if host.any isForbidden then .error .invalidDomainCharacter else .ok (Percent.encode isControl host)

/-- The host of a special scheme: the ASCII form of a domain name, or an address. -/
def readDomain (host : Text) : Except UrlError Text :=
  match bracketed? host with
  | some address => address
  | none =>
    match Utf8.decode (Percent.decode host) with
    | .error _ => .error .invalidInternationalDomain
    | .ok name =>
      match Domain.toAscii? name with
      | none => .error .invalidInternationalDomain
      | some domain =>
        if domain.any isForbiddenInDomain then .error .invalidInternationalDomain
        else if domain.isEmpty then .error .emptyHost
        else if Address.endsInNumber domain then
          match Address.ipv4? domain with
          | some address => .ok (Address.ipv4Text address)
          | none => .error .invalidIpv4
        else .ok domain

end Host

end BulkSql
