import AccessDecision.Json.Skip
import AccessDecision.Json.Write

set_option autoImplicit false

/-! # The grammar of JSON

Which byte strings are JSON texts, whoever reads them. `IsText` derives the text of a value with any
blanks in it and lists and objects to any depth. It says nothing of what the text means: numbers may
have any size, and the escapes of a string need not make up characters. `Spells` says which texts
stand for a value without parts. A string has many of them, since each of its characters may be
escaped in several ways, while a whole number has only one. `ObjectText` takes the text of an object
apart into its members, as they stand: the name of each, and the text of its value. -/

namespace AccessDecision.Json

open Text.Utf8

/-- Blanks, or nothing. -/
def IsBlank (s : Bytes) : Prop := ∀ b ∈ s, isSpace b = true

theorem isBlank_nil : IsBlank [] := by simp [IsBlank]

/-! ## Numbers -/

/-- Digits, one or more. -/
def IsDigits (s : Bytes) : Prop := s ≠ [] ∧ ∀ b ∈ s, isDigit b = true

inductive IsFraction : Bytes → Prop
  | none : IsFraction []
  | some {digits} : IsDigits digits → IsFraction (point :: digits)

inductive IsExponent : Bytes → Prop
  | none : IsExponent []
  | some {mark sign digits} : isExponentMark mark = true →
      sign = [] ∨ sign = [plusSign] ∨ sign = [minusSign] → IsDigits digits →
      IsExponent (mark :: (sign ++ digits))

/-- A number. Its whole digits start with a zero only if that is all of them. -/
inductive IsNumber : Bytes → Prop
  | mk {sign whole fraction exponent} : sign = [] ∨ sign = [minusSign] → IsDigits whole →
      (∀ more, whole = 0x30 :: more → more = []) → IsFraction fraction → IsExponent exponent →
      IsNumber (sign ++ (whole ++ (fraction ++ exponent)))

/-! ## Strings -/

/-- Four hexadecimal digits of a number. -/
def IsHex (n : Nat) (digits : Bytes) : Prop := digits.length = 4 ∧ hexNumber digits = some n

/-- What may stand between the quotes of a string: bytes that stand for themselves, escapes of one
    letter, and escapes of four digits. -/
inductive IsContent : Bytes → Prop
  | nil : IsContent []
  | plain {b s} : isPlain b = true → IsContent s → IsContent (b :: s)
  | letter {b c s} : shortEscape? b = some c → IsContent s → IsContent (backslash :: b :: s)
  | hex {n digits s} : IsHex n digits → IsContent s →
      IsContent (backslash :: letterU :: (digits ++ s))

def quoted (content : Bytes) : Bytes := quoteMark :: (content ++ [quoteMark])

/-- A character all of whose bytes stand for themselves in a string. -/
def isPlainChar (c : Char) : Bool := c ≠ '"' && c ≠ '\\' && 0x20 ≤ c.toNat

/-- How a character may stand in a string: as itself, as an escape of one letter, or as the number
    of its UTF-16 unit or of both of them. -/
inductive SpellsChar : Char → Bytes → Prop
  | plain {c} : isPlainChar c = true → SpellsChar c (String.utf8EncodeChar c)
  | letter {c b d} : shortEscape? b = some d → String.utf8EncodeChar c = [d] →
      SpellsChar c [backslash, b]
  | unit {c digits} : IsHex c.toNat digits → SpellsChar c (backslash :: letterU :: digits)
  | pair {c high low first second} : IsHex high first → IsHex low second →
      0xD800 ≤ high → high ≤ 0xDBFF → 0xDC00 ≤ low → low ≤ 0xDFFF →
      c.toNat = 0x10000 + (high - 0xD800) * 0x400 + (low - 0xDC00) →
      SpellsChar c (backslash :: letterU :: (first ++ backslash :: letterU :: second))

/-- How a text may stand between the quotes of a string. -/
inductive SpellsChars : List Char → Bytes → Prop
  | nil : SpellsChars [] []
  | cons {c cs s t} : SpellsChar c s → SpellsChars cs t → SpellsChars (c :: cs) (s ++ t)

/-- How a value without parts may stand in a text. -/
inductive Spells : Json → Bytes → Prop
  | nullWord : Spells .null (encodeChars ['n', 'u', 'l', 'l'])
  | trueWord : Spells (.bool true) (encodeChars ['t', 'r', 'u', 'e'])
  | falseWord : Spells (.bool false) (encodeChars ['f', 'a', 'l', 's', 'e'])
  | whole (n : Whole) : Spells (.whole n) (encodeChars (Text.intChars n.val))
  | string {s content} : SpellsChars s.toList content → Spells (.string s) (quoted content)

/-! ## Lists and objects -/

def Bracket.opening : Bracket → UInt8
  | .list => openBracket
  | .object => openBrace

/-- What stands in front of an item or a member: blanks, with a comma among them unless it is the
    first one. -/
inductive Lead : (isFirst : Bool) → Bytes → Prop
  | first {w} : IsBlank w → Lead true w
  | later {w w'} : IsBlank w → IsBlank w' → Lead false (w ++ comma :: w')

/-- What a byte string can be the text of. -/
inductive Part where
  | value
  /-- The items of a list, or the members of an object, that are left up to its closing bracket. -/
  | inside (bracket : Bracket) (isFirst : Bool)

inductive IsText : Part → Bytes → Prop
  | nullWord : IsText .value (encodeChars ['n', 'u', 'l', 'l'])
  | trueWord : IsText .value (encodeChars ['t', 'r', 'u', 'e'])
  | falseWord : IsText .value (encodeChars ['f', 'a', 'l', 's', 'e'])
  | number {s} : IsNumber s → IsText .value s
  | string {content} : IsContent content → IsText .value (quoted content)
  | brackets {bracket s} : IsText (.inside bracket true) s →
      IsText .value (bracket.opening :: (s ++ [bracket.closing]))
  | close {bracket isFirst w} : IsBlank w → IsText (.inside bracket isFirst) w
  | item {isFirst lead v s} : Lead isFirst lead → IsText .value v →
      IsText (.inside .list false) s → IsText (.inside .list isFirst) (lead ++ (v ++ s))
  | member {isFirst lead name w w' v s} : Lead isFirst lead → IsContent name → IsBlank w →
      IsBlank w' → IsText .value v → IsText (.inside .object false) s →
      IsText (.inside .object isFirst)
        (lead ++ (quoted name ++ (w ++ colon :: (w' ++ (v ++ s)))))

/-- The members that are left up to the closing brace, each with its name and the text of its
    value. -/
inductive MembersText : (isFirst : Bool) → List (String × Bytes) → Bytes → Prop
  | close {isFirst w} : IsBlank w → MembersText isFirst [] w
  | member {isFirst lead name content w w' v members s} : Lead isFirst lead →
      SpellsChars name.toList content → IsBlank w → IsBlank w' → MembersText false members s →
      MembersText isFirst ((name, v) :: members)
        (lead ++ (quoted content ++ (w ++ colon :: (w' ++ (v ++ s)))))

/-- A text of an object with some members and nothing else. -/
inductive ObjectText (members : List (String × Bytes)) : Bytes → Prop
  | mk {w s w'} : IsBlank w → MembersText true members s → IsBlank w' →
      ObjectText members (w ++ openBrace :: (s ++ closeBrace :: w'))

end AccessDecision.Json
