import AccessDecision.Text.Hexadecimal
import AccessDecision.Text.Pieces

set_option autoImplicit false

/-! # Tables of characters

A table is written as text: rows parted by spaces, numbers in hexadecimal digits. `first-last` is a
range, `first-last/2` every other character of one. What follows a colon is the image of the row,
numbers parted by dots; the one number of a range moves along with the character. -/

namespace AccessDecision.Unicode

structure Row where
  first : Nat
  last : Nat
  step : Nat
  image : List Nat
  deriving Repr

namespace Row

def number (digits : List Char) : Nat :=
  digits.foldl (fun n c => 16 * n + (Text.hexCharValue? c).getD 0) 0

/-- The row that a piece of a table writes. -/
def read (cs : List Char) : Row :=
  let (range, image) := Text.breakAt (· = ':') cs
  let (ends, step) := Text.breakAt (· = '/') range
  let (first, last) := Text.breakAt (· = '-') ends
  { first := number first
    last := number (last.getD first)
    step := (step.map number).getD 1
    image := match image with
      | none | some [] => []
      | some image => (Text.pieces (· = '.') image).map number }

def holds (r : Row) (n : Nat) : Bool :=
  r.first ≤ n && n ≤ r.last && (n - r.first) % r.step = 0

/-- The image of a character of the row. -/
def imageOf (r : Row) (n : Nat) : List Nat :=
  match r.image with
  | [m] => [m + (n - r.first)]
  | image => image

end Row

abbrev Table := List Row

namespace Table

/-- The rows of some lines. -/
def read (lines : List String) : Table :=
  lines.flatMap fun line => (Text.pieces (· = ' ') line.toList).map Row.read

def has (t : Table) (c : Char) : Bool := t.any fun r => r.holds c.toNat

def image? (t : Table) (c : Char) : Option (List Nat) :=
  (t.find? fun r => r.holds c.toNat).map fun r => r.imageOf c.toNat

end Table

end AccessDecision.Unicode
