import AccessDecision.Url.Domain
import AccessDecision.Url.Error
import AccessDecision.Url.Ipv4
import AccessDecision.Url.Ipv6
import AccessDecision.Url.Percent

set_option autoImplicit false

/-! # Hosts

The host of a web URL is a domain or an address. A domain is kept in its ASCII form, which stands
for itself: reading it again gives the same domain. Other schemes have hosts of their own kind, of
which only the characters are checked. -/

namespace AccessDecision.Url

inductive Host where
  | domain (ascii : List Char)
  | ipv4 (address : Ipv4)
  | ipv6 (address : Ipv6)
  /-- The host of a scheme that the web does not know, which may be empty. -/
  | foreign (text : List Char)
  deriving DecidableEq

namespace Host

def chars : Host → List Char
  | .domain ascii => ascii
  | .ipv4 address => address.chars
  | .ipv6 address => '[' :: address.chars ++ [']']
  | .foreign text => text

/-- The address between brackets. -/
def bracketed (cs : List Char) : Except Error Host :=
  match cs.getLast?, Ipv6.read? cs.dropLast with
  | some ']', some address => .ok (.ipv6 address)
  | _, _ => .error .invalidIpv6

/-- The host of a web URL. -/
def read : List Char → Except Error Host
  | '[' :: cs => bracketed cs
  | cs =>
    match Text.Utf8.decode (Percent.decode (Text.Utf8.encodeChars cs)) with
    | .error _ => .error .invalidDomain
    | .ok decoded =>
      match Domain.toAscii? decoded.toList with
      | none => .error .invalidDomain
      | some [] => .error .emptyHost
      | some ascii =>
        if Ipv4.isDue ascii then
          match Ipv4.ofDomain? ascii with
          | some address => .ok (.ipv4 address)
          | none => .error .invalidIpv4
        else .ok (.domain ascii)

/-- What the host of another scheme may not hold. -/
def isForbiddenForeign (c : Char) : Bool :=
  c = '\x00' || [' ', '#', '/', ':', '<', '>', '?', '@', '[', '\\', ']', '^', '|'].contains c

/-- The host of a URL that is not of the web. -/
def readForeign : List Char → Except Error Host
  | '[' :: cs => bracketed cs
  | cs =>
    if cs.any isForbiddenForeign then .error .invalidHostCharacter
    else .ok (.foreign (Percent.encode Percent.controls cs))

end Host

end AccessDecision.Url
