import AccessDecision.Text.Utf8

set_option autoImplicit false

/-! # Headers

A header is a name, which is a token in lower case, and a value without controls. A list of headers
keeps the order in which they are sent; one name may have several values. -/

namespace AccessDecision.Http

/-- What a header name consists of. -/
def isTokenChar (c : Char) : Bool :=
  c.isAlphanum || "!#$%&'*+-.^_|~".toList.contains c || c = '\x60'

/-- A token in lower case that is not too long. -/
def isName (s : String) : Bool :=
  !s.isEmpty && s.toList.all (fun c => isTokenChar c && !c.isUpper) && s.utf8ByteSize < 0x10000

/-- No controls but the tab. -/
def isValue (s : String) : Bool :=
  s.toList.all fun c => c = '\t' || (0x20 ≤ c.toNat && c.toNat ≠ 0x7F)

structure Header where
  name : String
  value : String
  isName_name : isName name = true
  isValue_value : isValue value = true
  deriving DecidableEq

/-- Why there is no such header. -/
inductive HeaderFault where
  | invalidName
  | invalidValue
  deriving DecidableEq, Repr

def HeaderFault.message : HeaderFault → String
  | .invalidName => "invalid HTTP header name"
  | .invalidValue => "failed to parse header value"

namespace Header

/-- A name in lower case. -/
def lowered (name : String) : String := String.ofList (name.toList.map Char.toLower)

/-- The header of a name in any case and a value. -/
def of (name value : String) : Except HeaderFault Header :=
  if hname : isName (lowered name) = true then
    if hvalue : isValue value = true then .ok ⟨lowered name, value, hname, hvalue⟩
    else .error .invalidValue
  else .error .invalidName

end Header

/-! ## Lists of headers -/

abbrev Headers := List Header

namespace Headers

def has (headers : Headers) (name : String) : Bool := headers.any fun h => h.name = name

/-- The values of a name, in the order in which they are sent. -/
def values (headers : Headers) (name : String) : List String :=
  (headers.filter fun h => h.name = name).map Header.value

/-- The headers without some names. -/
def without (headers : Headers) (names : List String) : Headers :=
  headers.filter fun h => !names.contains h.name

/-- The headers with one that takes the place of all of its name. -/
def set (headers : Headers) (header : Header) : Headers :=
  headers.without [header.name] ++ [header]

/-- The headers, and of some others those whose name is new. -/
def complete (headers others : Headers) : Headers :=
  headers ++ others.filter fun h => !headers.has h.name

end Headers

end AccessDecision.Http
