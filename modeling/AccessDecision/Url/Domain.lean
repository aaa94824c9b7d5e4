import AccessDecision.Text.Pieces
import AccessDecision.Unicode.Direction
import AccessDecision.Unicode.Joining
import AccessDecision.Unicode.Mapping
import AccessDecision.Unicode.Mark
import AccessDecision.Url.Punycode

set_option autoImplicit false

/-! # Domains

A domain is written in ASCII. Capital letters count as small ones; a label with other characters is
brought into its normal form, checked, and written in punycode behind `xn--`. A label that starts so
already must be what such a label is written as.

`toAscii?` gives the ASCII form. It is never read as another domain. -/

namespace AccessDecision.Url.Domain

/-- What no domain may hold: controls, the space, and the marks that part a URL. -/
def isForbidden (c : Char) : Bool :=
  c.toNat ≤ 0x20 || c.toNat = 0x7F ||
    ['#', '%', '/', ':', '<', '>', '?', '@', '[', '\\', ']', '^', '|'].contains c

/-- How a label in punycode starts. -/
def mark : List Char := "xn--".toList

/-- The label behind the mark. -/
def unmarked? (label : List Char) : Option (List Char) :=
  if mark.isPrefixOf label then some (label.drop mark.length) else none

/-- The longest label that is taken apart, and the longest that is put together. -/
def maxCoded : Nat := 2000
def maxPlain : Nat := 1000

/-- Whether a label beyond ASCII is in its normal form. -/
def isNormal (label : List Char) : Bool :=
  label.all Unicode.isValid && Unicode.composed label = label &&
    !(label.head?.map Unicode.isMark).getD false && Unicode.joinersSteer [] label &&
    (unmarked? label).isNone

/-- The label that a label in normal form stands for: one in punycode is decoded. -/
def plainLabel? (label : List Char) : Option (List Char) :=
  match unmarked? label with
  | none => if label.all Punycode.isAscii || isNormal label then some label else none
  | some coded =>
    if maxCoded < coded.length then none
    else match Punycode.decode? coded with
      | none => none
      | some plain => if plain.all Punycode.isAscii || !isNormal plain then none else some plain

/-- The ASCII form of a label. -/
def asciiLabel? (label : List Char) : Option (List Char) :=
  if label.all Punycode.isAscii then some label
  else if maxPlain < label.length then none
  else some (mark ++ Punycode.encode label)

/-- The labels of a domain, in normal form and decoded. Where one of them turns the direction of
writing, every label must keep to its own. -/
def plainLabels? (cs : List Char) : Option (List (List Char)) := do
  let mapped ← cs.mapM Unicode.mapped?
  let labels := Text.pieces (· = '.') (Unicode.composed mapped.flatten)
  let plain ← labels.mapM plainLabel?
  if plain.any (·.any Unicode.turns) && !plain.all Unicode.keepsDirection then none else some plain

/-- Whether a domain is ASCII and no label is in punycode. -/
def isPlain (cs : List Char) : Bool :=
  cs.all Punycode.isAscii && (Text.pieces (· = '.') cs).all fun label => (unmarked? label).isNone

/-- The ASCII form of a domain, which is not yet known to be read as itself. -/
def convert? (cs : List Char) : Option (List Char) := do
  let lower := cs.map Char.toLower
  let ascii ←
    if isPlain lower then some lower
    else do
      let labels ← (← plainLabels? cs).mapM asciiLabel?
      some (['.'].intercalate labels)
  if ascii.any isForbidden then none else some ascii

/-- The ASCII form of a domain. One that would be read as another domain is refused; one that is too
long to be read again is not. -/
def toAscii? (cs : List Char) : Option (List Char) := do
  let ascii ← convert? cs
  match convert? ascii with
  | some again => if again = ascii then some ascii else none
  | none => some ascii

end AccessDecision.Url.Domain
