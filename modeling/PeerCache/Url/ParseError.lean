/-
Module: PeerCache.Url.ParseError
Purpose: Why a text is no URL.
Main exports:
  Url.ParseError, Url.ParseError.message
-/

namespace PeerCache.Url

/-- The ways in which a text can fail to be an absolute URL. -/
inductive ParseError where
  | relativeWithoutBase
  | emptyHost
  | invalidPort
  | invalidDomain
  | invalidDomainCharacter
  | invalidIpv4
  | invalidIpv6
deriving Repr, DecidableEq

/-- The wording of each failure. -/
def ParseError.message : ParseError → String
  | .relativeWithoutBase => "relative URL without a base"
  | .emptyHost => "empty host"
  | .invalidPort => "invalid port number"
  | .invalidDomain => "invalid international domain name"
  | .invalidDomainCharacter => "invalid domain character"
  | .invalidIpv4 => "invalid IPv4 address"
  | .invalidIpv6 => "invalid IPv6 address"

end PeerCache.Url
