import AccessDecision.Url.Read

set_option autoImplicit false

/-! # URIs

The text of a URL need not be a URI that a request can name. A URI with a scheme and two slashes has
an authority: a host, perhaps with a name and a password before it and a port behind. Without them
all of its text is the authority. Percent signs can only stand in a name and a password, or between
brackets, and colons only there and before the port. -/

namespace AccessDecision.Http

namespace Uri

/-! ## Authorities -/

/-- The characters without a meaning of their own in an authority. -/
def isHostChar (c : Char) : Bool :=
  c.isAlphanum ||
    ['!', '$', '&', '\'', '(', ')', '*', '+', ',', '-', '.', ';', '=', '_', '~'].contains c

/-- What is known of an authority after some of its characters. -/
structure Scan where
  /-- The colons since the last `@` or closing bracket. -/
  colons : Nat := 0
  opened : Bool := false
  closed : Bool := false
  /-- Whether there is a percent sign since the last `@` or closing bracket. -/
  percent : Bool := false
  deriving DecidableEq

/-- The colons of an address and the port behind it. -/
def maxColons : Nat := 8

namespace Scan

/-- Reads one more character, if it can stand there. -/
def next? (s : Scan) (c : Char) : Option Scan :=
  if c = ':' then if s.colons < maxColons then some { s with colons := s.colons + 1 } else none
  else if c = '[' then if s.opened || s.percent then none else some { s with opened := true }
  else if c = ']' then
    if s.opened && !s.closed then some { s with colons := 0, closed := true, percent := false }
    else none
  else if c = '@' then some { s with colons := 0, percent := false }
  else if c = '%' then some { s with percent := true }
  else if isHostChar c then some s
  else none

def run? (s : Scan) (cs : List Char) : Option Scan := cs.foldlM next? s

/-- Whether an authority may end here. -/
def isComplete (s : Scan) : Bool := s.colons ≤ 1 && s.opened = s.closed && !s.percent

end Scan

/-- An authority ends with a host or a port, so not with the `@` before them. -/
def isAuthority (cs : List Char) : Bool :=
  !cs.isEmpty && cs.getLast? ≠ some '@' && (Scan.run? {} cs).any Scan.isComplete

/-! ## Paths and queries -/

def isPathChar (c : Char) : Bool := 0x20 < c.toNat && c ≠ '<' && c ≠ '>' && c ≠ '\x60'

def isQueryChar (c : Char) : Bool := 0x20 < c.toNat && c ≠ '"' && c ≠ '<' && c ≠ '>'

/-! ## The text as a whole -/

/-- The scheme and what follows its colon and two slashes. -/
def splitScheme? (cs : List Char) : Option (List Char × List Char) :=
  match cs.dropWhile Url.isSchemeChar with
  | ':' :: '/' :: '/' :: rest => some (cs.takeWhile Url.isSchemeChar, rest)
  | _ => none

def maxScheme : Nat := 64

/-- Whether what follows the scheme has an authority, and a path and a query that need no percent
signs. The fragment is not looked at. -/
def isHierarchy (parts : Url.Parts) : Bool :=
  isAuthority (parts.main.takeWhile (· ≠ '/')) &&
    (parts.main.dropWhile (· ≠ '/')).all isPathChar &&
    (parts.query.getD []).all isQueryChar

end Uri

/-- Whether the text of a URL is a URI that a request can name. -/
def isUri (cs : List Char) : Bool :=
  cs.length < 0xFFFF &&
    match Uri.splitScheme? cs with
    | some (scheme, rest) =>
      scheme.length ≤ Uri.maxScheme && Uri.isHierarchy (Url.Parts.of rest)
    | none => Uri.isAuthority cs

end AccessDecision.Http
