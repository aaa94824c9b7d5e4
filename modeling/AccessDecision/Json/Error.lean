import AccessDecision.Bytes
import AccessDecision.Json.Write
import AccessDecision.Text.Quoted

set_option autoImplicit false

/-! # Why JSON is not read

A `Cause` says what is wrong. An `Error` adds the place: a text is read byte by byte, so its errors
have a line and a column, while the errors of reading a record off a value have no place. -/

namespace AccessDecision.Json

/-- What stands where something else was expected: the value itself, unless it has parts. -/
inductive Shape where
  | null
  | boolean (value : Bool)
  | whole (value : Whole)
  | real (value : Binary64)
  | string (value : String)
  | sequence
  | map
  deriving DecidableEq

def shape : Json → Shape
  | .null => .null
  | .bool b => .boolean b
  | .whole n => .whole n
  | .real x => .real x
  | .string s => .string s
  | .array _ => .sequence
  | .object _ => .map

def Shape.text : Shape → String
  | .null => "null"
  | .boolean true => "boolean `true`"
  | .boolean false => "boolean `false`"
  | .whole n => "integer `" ++ Text.intText n.val ++ "`"
  | .real x => "floating point `" ++ String.ofList (realChars x) ++ "`"
  | .string s => "string " ++ Text.quoted s
  | .sequence => "sequence"
  | .map => "map"

/-- What was expected. -/
inductive Expectation where
  | boolean
  | string
  | int64
  | unit
  | variantName
  | record (title : String)
  deriving DecidableEq, Repr

def Expectation.text : Expectation → String
  | .boolean => "a boolean"
  | .string => "a string"
  | .int64 => "i64"
  | .unit => "unit"
  | .variantName => "variant identifier"
  | .record title => "struct " ++ title

inductive Cause where
  /-- The text ends where a value should start, or inside a number or a word. -/
  | endInValue
  | endInList
  | endInObject
  | endInString
  | expectedValue
  | expectedWord
  | expectedColon
  | expectedListCommaOrEnd
  | expectedObjectCommaOrEnd
  | keyNotString
  | trailingComma
  | trailingCharacters
  | invalidNumber
  | numberOutOfRange
  | invalidEscape
  | controlCharacter
  | invalidCodePoint
  | loneSurrogate
  | unfinishedSurrogates
  /-- Brackets nest too deep. -/
  | tooDeep
  | missingField (name : String)
  | duplicateField (name : String)
  | unknownVariant (name : String) (variants : List String)
  | wrongType (found : Shape) (expected : Expectation)
  | wrongValue (found : Shape) (expected : Expectation)
  /-- An array that stands for a record lacks elements. -/
  | tooShort (length : Nat) (title : String) (fields : Nat)
  /-- An array that stands for a record has too many elements. -/
  | tooLong (length : Nat)
  deriving DecidableEq

def inTicks (s : String) : String := "`" ++ s ++ "`"

def Cause.text : Cause → String
  | .endInValue => "EOF while parsing a value"
  | .endInList => "EOF while parsing a list"
  | .endInObject => "EOF while parsing an object"
  | .endInString => "EOF while parsing a string"
  | .expectedValue => "expected value"
  | .expectedWord => "expected ident"
  | .expectedColon => "expected `:`"
  | .expectedListCommaOrEnd => "expected `,` or `]`"
  | .expectedObjectCommaOrEnd => "expected `,` or `\x7d`"
  | .keyNotString => "key must be a string"
  | .trailingComma => "trailing comma"
  | .trailingCharacters => "trailing characters"
  | .invalidNumber => "invalid number"
  | .numberOutOfRange => "number out of range"
  | .invalidEscape => "invalid escape"
  | .controlCharacter => "control character (\\u0000-\\u001F) found while parsing a string"
  | .invalidCodePoint => "invalid unicode code point"
  | .loneSurrogate => "lone leading surrogate in hex escape"
  | .unfinishedSurrogates => "unexpected end of hex escape"
  | .tooDeep => "recursion limit exceeded"
  | .missingField name => "missing field " ++ inTicks name
  | .duplicateField name => "duplicate field " ++ inTicks name
  | .unknownVariant name variants =>
    "unknown variant " ++ inTicks name ++ ", expected one of " ++
      ", ".intercalate (variants.map inTicks)
  | .wrongType found expected => "invalid type: " ++ found.text ++ ", expected " ++ expected.text
  | .wrongValue found expected => "invalid value: " ++ found.text ++ ", expected " ++ expected.text
  | .tooShort length title fields =>
    "invalid length " ++ Text.natText length ++ ", expected struct " ++ title ++ " with " ++
      Text.natText fields ++ " elements"
  | .tooLong length =>
    "invalid length " ++ Text.natText length ++ ", expected fewer elements in array"

/-- A place in a text: a line, counted from one, and how many bytes of it have been read. -/
structure Position where
  line : Nat
  column : Nat
  deriving DecidableEq, Repr

/-- The place after the first `index` bytes. -/
def Position.after (input : Bytes) (index : Nat) : Position :=
  let before := input.take index
  ⟨1 + before.count 10, (before.reverse.takeWhile (· ≠ 10)).length⟩

structure Error where
  cause : Cause
  position : Option Position
  deriving DecidableEq

def Error.message (e : Error) : String :=
  match e.position with
  | none => e.cause.text
  | some p =>
    e.cause.text ++ " at line " ++ Text.natText p.line ++ " column " ++ Text.natText p.column

end AccessDecision.Json
