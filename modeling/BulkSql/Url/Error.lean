import BulkSql.Text.Basic

/-! # Refused urls -/

namespace BulkSql

/-- Why a text is no url that stands on its own. -/
inductive UrlError where
  | emptyHost
  | invalidInternationalDomain
  | invalidPort
  | invalidIpv4
  | invalidIpv6
  | invalidDomainCharacter
  | relativeWithoutBase
deriving DecidableEq, Repr

def UrlError.message : UrlError → Text
  | emptyHost => "empty host"
  | invalidInternationalDomain => "invalid international domain name"
  | invalidPort => "invalid port number"
  | invalidIpv4 => "invalid IPv4 address"
  | invalidIpv6 => "invalid IPv6 address"
  | invalidDomainCharacter => "invalid domain character"
  | relativeWithoutBase => "relative URL without a base"

end BulkSql
