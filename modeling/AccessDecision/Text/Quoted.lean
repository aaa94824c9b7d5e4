import AccessDecision.Text.Hexadecimal
import AccessDecision.Text.Hidden

set_option autoImplicit false

/-! # Texts in quotes

A diagnostic text shows a string between double quotes. A quote, a backslash and the common controls
get a backslash; a character that does not show by itself is written as its code point in
hexadecimal digits between braces; every other character stands for itself. -/

namespace AccessDecision.Text

/-- How a character is written between quotes. -/
def quotedChar (c : Char) : List Char :=
  if c = '"' then ['\\', '"']
  else if c = '\\' then ['\\', '\\']
  else if c = '\n' then ['\\', 'n']
  else if c = '\r' then ['\\', 'r']
  else if c = '\t' then ['\\', 't']
  else if c = '\x00' then ['\\', '0']
  else if isHidden c then ['\\', 'u', '\x7b'] ++ hexDigits c.toNat ++ ['\x7d']
  else [c]

/-- A text in quotes. -/
def quoted (s : String) : String :=
  String.ofList ('"' :: s.toList.flatMap quotedChar ++ ['"'])

/-- What may be absent, as diagnostics show it. -/
def optional : Option String → String
  | none => "None"
  | some shown => "Some(" ++ shown ++ ")"

end AccessDecision.Text
