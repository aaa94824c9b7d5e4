set_option autoImplicit false

/-! # Why a text is no URL -/

namespace AccessDecision.Url

inductive Error where
  /-- There is no scheme, and no URL to start from. -/
  | relativeWithoutBase
  | emptyHost
  | invalidPort
  | invalidIpv4
  | invalidIpv6
  /-- A domain holds what no domain may hold. -/
  | invalidDomain
  /-- The host of a scheme of its own holds what no host may hold. -/
  | invalidHostCharacter
  deriving DecidableEq, Repr

def Error.message : Error → String
  | .relativeWithoutBase => "relative URL without a base"
  | .emptyHost => "empty host"
  | .invalidPort => "invalid port number"
  | .invalidIpv4 => "invalid IPv4 address"
  | .invalidIpv6 => "invalid IPv6 address"
  | .invalidDomain => "invalid international domain name"
  | .invalidHostCharacter => "invalid domain character"

end AccessDecision.Url
