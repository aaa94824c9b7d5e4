import AccessDecision.Json.Basic
import AccessDecision.Binary64.Shortest
import AccessDecision.Text.Decimal

set_option autoImplicit false

/-! # Writing JSON

The text is compact: no blank between tokens, members in the order of the value. A string escapes
the quote, the backslash and the controls below U+0020, and nothing else. A real number is written
with the fewest digits that read back, in positional notation while its leading digit stands between
five places after the point and sixteen before it. -/

namespace AccessDecision.Json

/-! ## Numbers -/

/-- How real numbers are laid out. -/
structure RealFormat where
  /-- The least power of ten of a leading digit that is still written positionally. -/
  least : Int
  /-- The greatest one. -/
  greatest : Int
  /-- Whether a positive exponent shows its sign. -/
  plus : Bool

/-- Positional from `0.00001` up to sixteen places before the point, else with a signed exponent. -/
def realFormat : RealFormat := ⟨-5, 15, true⟩

/-- The layout of a decimal other than zero. -/
def decimalChars (format : RealFormat) (d : Binary64.Decimal) : List Char :=
  let digits := Text.natChars d.digits
  let leading : Int := d.scale + digits.length - 1
  if leading < format.least ∨ format.greatest < leading then
    let fraction := if digits.tail.isEmpty then [] else '.' :: digits.tail
    let sign := if 0 ≤ leading && format.plus then ['+'] else []
    digits.take 1 ++ fraction ++ 'e' :: sign ++ Text.intChars leading
  else if 0 ≤ d.scale then digits ++ List.replicate d.scale.toNat '0' ++ ['.', '0']
  else if 0 ≤ leading then
    digits.take (leading.toNat + 1) ++ '.' :: digits.drop (leading.toNat + 1)
  else '0' :: '.' :: List.replicate (-leading).toNat.pred '0' ++ digits

def realChars (x : Binary64) : List Char :=
  let sign := if x.negative then ['-'] else []
  if x.significand = 0 then sign ++ ['0', '.', '0']
  else sign ++ decimalChars realFormat x.shortest

/-! ## Strings -/

/-- A lower-case hexadecimal digit. -/
def hexDigit (n : Nat) : Char := Nat.digitChar n

/-- How a character is written between the quotes. -/
def escapedChar (c : Char) : List Char :=
  if c = '"' then ['\\', '"']
  else if c = '\\' then ['\\', '\\']
  else if c = '\x08' then ['\\', 'b']
  else if c = '\t' then ['\\', 't']
  else if c = '\n' then ['\\', 'n']
  else if c = '\x0C' then ['\\', 'f']
  else if c = '\r' then ['\\', 'r']
  else if c.toNat < 0x20 then
    ['\\', 'u', '0', '0', hexDigit (c.toNat / 16), hexDigit (c.toNat % 16)]
  else [c]

def stringChars (s : String) : List Char :=
  '"' :: s.toList.flatMap escapedChar ++ ['"']

/-! ## Values -/

mutual

def chars : Json → List Char
  | .null => ['n', 'u', 'l', 'l']
  | .bool true => ['t', 'r', 'u', 'e']
  | .bool false => ['f', 'a', 'l', 's', 'e']
  | .whole n => Text.intChars n.val
  | .real x => realChars x
  | .string s => stringChars s
  | .array items => '[' :: itemsChars items ++ [']']
  | .object members => '\x7b' :: membersChars members ++ ['\x7d']

def itemsChars : List Json → List Char
  | [] => []
  | [v] => chars v
  | v :: w :: rest => chars v ++ ',' :: itemsChars (w :: rest)

def membersChars : List (String × Json) → List Char
  | [] => []
  | [(name, v)] => stringChars name ++ ':' :: chars v
  | (name, v) :: m :: rest => stringChars name ++ ':' :: chars v ++ ',' :: membersChars (m :: rest)

end

/-- The JSON text of a value. -/
def text (v : Json) : String := String.ofList v.chars

end AccessDecision.Json
