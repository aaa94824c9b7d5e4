import AccessDecision.Bytes
import AccessDecision.Json.Error
import AccessDecision.Text.Hexadecimal
import AccessDecision.Text.Utf8

set_option autoImplicit false

/-! # The tokens of JSON

Each reader takes the bytes still to be read and returns what follows the token. A `Fault` keeps the
bytes that were left when it arose, from which its place is computed once the whole text is known.
Some faults lie at the byte just read, others at the next one, which then counts as read:
`Fault.next` is for the latter. -/

namespace AccessDecision.Json

/-- What is wrong, and the bytes behind the place. -/
structure Fault where
  cause : Cause
  rest : Bytes
  deriving DecidableEq

/-- A fault of the byte that comes next. -/
def Fault.next (cause : Cause) (rest : Bytes) : Fault := ⟨cause, rest.drop 1⟩

/-- A fault in a text, with its place. -/
def Fault.toError (input : Bytes) (fault : Fault) : Error :=
  ⟨fault.cause, some (.after input (input.length - fault.rest.length))⟩

/-! ## Bytes -/

abbrev quoteMark : UInt8 := 0x22
abbrev plusSign : UInt8 := 0x2B
abbrev comma : UInt8 := 0x2C
abbrev minusSign : UInt8 := 0x2D
abbrev point : UInt8 := 0x2E
abbrev colon : UInt8 := 0x3A
abbrev openBracket : UInt8 := 0x5B
abbrev backslash : UInt8 := 0x5C
abbrev closeBracket : UInt8 := 0x5D
abbrev letterU : UInt8 := 0x75
abbrev openBrace : UInt8 := 0x7B
abbrev closeBrace : UInt8 := 0x7D

/-- Space, tab, line feed and carriage return. -/
def isSpace (b : UInt8) : Bool := b = 0x20 || b = 0x09 || b = 0x0A || b = 0x0D

def isDigit (b : UInt8) : Bool := 0x30 ≤ b && b ≤ 0x39

def isExponentMark (b : UInt8) : Bool := b = 0x65 || b = 0x45

def digitValue (b : UInt8) : Nat := b.toNat - 0x30

def skipSpace (s : Bytes) : Bytes := s.dropWhile isSpace

/-! ## Words -/

/-- What follows a word, of which the bytes `expected` are still to come. -/
def readWord : (expected : Bytes) → Bytes → Except Fault Bytes
  | [], s => .ok s
  | _ :: _, [] => .error ⟨.endInValue, []⟩
  | e :: expected, b :: s => if b = e then readWord expected s else .error ⟨.expectedWord, s⟩

/-! ## Numbers -/

/-- As many leading digits as keep the significand below `2 ^ 64`, and how many are left over. -/
def absorb (significand : Nat) : List Nat → Nat × Nat
  | [] => (significand, 0)
  | d :: ds =>
    if 10 * significand + d < 0x10000000000000000 then absorb (10 * significand + d) ds
    else (significand, ds.length + 1)

def spanDigits (s : Bytes) : List Nat × Bytes :=
  ((s.takeWhile isDigit).map digitValue, s.dropWhile isDigit)

/-- The digits of an exponent after those read so far. One above `2 ^ 31 - 1` is `none`, with the
bytes after the digit that made it so. -/
def spanExponent (value : Nat) : Bytes → Option Nat × Bytes
  | [] => (some value, [])
  | b :: s =>
    if isDigit b then
      if 10 * value + digitValue b < 0x80000000 then spanExponent (10 * value + digitValue b) s
      else (none, s)
    else (some value, b :: s)

/-- The real number of a significand and a power of ten. -/
def realFrom (negative : Bool) (significand : Nat) (exponent : Int) (rest : Bytes) :
    Except Fault (Json × Bytes) :=
  match Binary64.ofDecimal negative significand exponent with
  | some x => .ok (.real x, rest)
  | none => .error ⟨.numberOutOfRange, rest⟩

/-- The end of a real number: an exponent, if there is one. -/
def readExponent (negative : Bool) (significand : Nat) (exponent : Int) (s : Bytes) :
    Except Fault (Json × Bytes) :=
  match s with
  | [] => realFrom negative significand exponent []
  | mark :: s =>
    if isExponentMark mark then
      let down := s.head? = some minusSign
      let s := if down || s.head? = some plusSign then s.drop 1 else s
      match s with
      | [] => .error ⟨.endInValue, []⟩
      | b :: s =>
        if isDigit b then
          match spanExponent (digitValue b) s with
          | (some value, rest) =>
            realFrom negative significand (if down then exponent - value else exponent + value) rest
          | (none, rest) =>
            if significand ≠ 0 && !down then .error ⟨.numberOutOfRange, rest⟩
            else .ok (.real (.zero negative), rest.dropWhile isDigit)
        else .error ⟨.invalidNumber, s⟩
    else realFrom negative significand exponent (mark :: s)

/-- A number without point or exponent: whole if 64 bits hold it, `-0` and all others real. -/
def wholeOrReal (negative : Bool) (significand : Nat) (rest : Bytes) :
    Except Fault (Json × Bytes) :=
  let value : Int := if negative then -significand else significand
  if negative && significand = 0 then realFrom true 0 0 rest
  else match Whole.ofInt? value with
    | some n => .ok (.whole n, rest)
    | none => realFrom negative significand 0 rest

/-- What follows the whole digits of a number. -/
def readFraction (negative : Bool) (digits : List Nat) (s : Bytes) : Except Fault (Json × Bytes) :=
  let (significand, dropped) := absorb 0 digits
  match s with
  | [] => if dropped = 0 then wholeOrReal negative significand [] else
      realFrom negative significand dropped []
  | b :: r =>
    if b = point then
      match spanDigits r with
      | ([], r) => .error (if r.isEmpty then ⟨.endInValue, []⟩ else .next .invalidNumber r)
      | (ds, r) =>
        let (significand, ignored) := absorb significand ds
        readExponent negative significand (dropped + ignored - ds.length) r
    else if dropped = 0 && !isExponentMark b then wholeOrReal negative significand (b :: r)
    else readExponent negative significand dropped (b :: r)

/-- A number, after its sign. A leading zero stands alone. -/
def readNumber (negative : Bool) (s : Bytes) : Except Fault (Json × Bytes) :=
  match s with
  | [] => .error ⟨.endInValue, []⟩
  | b :: r =>
    if !isDigit b then .error ⟨.invalidNumber, r⟩
    else
      match spanDigits (b :: r) with
      | (0 :: _ :: _, _) => .error (.next .invalidNumber r)
      | (digits, rest) => readFraction negative digits rest

/-! ## Strings -/

/-- The number of four hexadecimal digits. -/
def hexNumber (digits : List UInt8) : Option Nat :=
  digits.foldl (fun n b => do some (16 * (← n) + (← Text.hexValue? b))) (some 0)

/-- The character of a one-letter escape. -/
def shortEscape? (b : UInt8) : Option UInt8 :=
  if b = quoteMark || b = backslash || b = 0x2F then some b
  else if b = 0x62 then some 0x08
  else if b = 0x66 then some 0x0C
  else if b = 0x6E then some 0x0A
  else if b = 0x72 then some 0x0D
  else if b = 0x74 then some 0x09
  else none

/-- Where a reader stands inside a string. -/
inductive InString where
  | plain
  /-- After a backslash. -/
  | escape
  /-- After `\u` and some digits, behind the first of two surrogates if there is one. -/
  | hex (leading : Option Nat) (digits : List UInt8)
  /-- After the first of two surrogates: the backslash of the second must follow. -/
  | pair (leading : Nat)
  /-- After that backslash: a `u` must follow. -/
  | pairEscape (leading : Nat)

/-- What four hexadecimal digits mean. -/
inductive Unit16 where
  | char (c : Char)
  | leading (n : Nat)
  | lone

/-- A UTF-16 unit, after the first of two surrogates if there is one. -/
def unit16 (leading : Option Nat) (n : Nat) : Unit16 :=
  match leading with
  | none =>
    if 0xDC00 ≤ n && n ≤ 0xDFFF then .lone
    else if 0xD800 ≤ n && n ≤ 0xDBFF then .leading n
    else .char (Char.ofNat n)
  | some high =>
    if 0xDC00 ≤ n && n ≤ 0xDFFF then
      .char (Char.ofNat (0x10000 + (high - 0xD800) * 0x400 + (n - 0xDC00)))
    else .lone

/-- A byte that stands for itself in a string. -/
def isPlain (b : UInt8) : Bool := b ≠ quoteMark && b ≠ backslash && 0x20 ≤ b

/-- The bytes of a string up to the next backslash or the closing quote must be UTF-8, which counts
only where one of the two follows. What is not is placed at its first byte. -/
def checkRun (s : Bytes) : Except Fault Unit :=
  match (s.dropWhile isPlain).head?, Text.Utf8.decodeFrom 0 none (s.takeWhile isPlain) with
  | some mark, .error fault =>
    if mark = quoteMark || mark = backslash then
      .error ⟨.invalidCodePoint, s.drop (fault.index + 1)⟩
    else .ok ()
  | _, _ => .ok ()

/-- The content of a string, as bytes, and what follows the closing quote. -/
def scanString : InString → Bytes → Except Fault (Bytes × Bytes)
  | _, [] => .error ⟨.endInString, []⟩
  | .plain, b :: s =>
    if b = quoteMark then .ok ([], s)
    else if b = backslash then scanString .escape s
    else if b < 0x20 then .error ⟨.controlCharacter, s⟩
    else (scanString .plain s).map fun (content, rest) => (b :: content, rest)
  | .escape, b :: s =>
    if b = letterU then scanString (.hex none []) s
    else match shortEscape? b with
      | some c => do
        checkRun s
        (scanString .plain s).map fun (content, rest) => (c :: content, rest)
      | none => .error ⟨.invalidEscape, s⟩
  | .hex leading digits, b :: s =>
    if digits.length < 3 then scanString (.hex leading (digits ++ [b])) s
    else match hexNumber (digits ++ [b]) with
      | none => .error ⟨.invalidEscape, s⟩
      | some n => match unit16 leading n with
        | .char c => do
          checkRun s
          (scanString .plain s).map fun (content, rest) =>
            (String.utf8EncodeChar c ++ content, rest)
        | .leading high => scanString (.pair high) s
        | .lone => .error ⟨.loneSurrogate, s⟩
  | .pair leading, b :: s =>
    if b = backslash then scanString (.pairEscape leading) s
    else .error ⟨.unfinishedSurrogates, s⟩
  | .pairEscape leading, b :: s =>
    if b = letterU then scanString (.hex (some leading) []) s
    else .error ⟨.unfinishedSurrogates, s⟩

theorem scanString_escape (s : Bytes) :
    scanString .plain (backslash :: s) = scanString .escape s := by
  rw [scanString, if_neg (by decide), if_pos rfl]

theorem scanString_escape_hex (s : Bytes) :
    scanString .escape (letterU :: s) = scanString (.hex none []) s := by
  rw [scanString, if_pos rfl]

/-- A string, after its opening quote. Its bytes must be UTF-8. -/
def readString (s : Bytes) : Except Fault (String × Bytes) := do
  checkRun s
  let (content, rest) ← scanString .plain s
  match Text.Utf8.decode content with
  | .ok text => .ok (text, rest)
  | .error _ => .error ⟨.invalidCodePoint, rest⟩

/-! ## Values without parts -/

/-- A word, a number or a string. -/
def readScalar (s : Bytes) : Except Fault (Json × Bytes) :=
  match s with
  | [] => .error ⟨.endInValue, []⟩
  | b :: r =>
    if b = 0x6E then (readWord [0x75, 0x6C, 0x6C] r).map (.null, ·)
    else if b = 0x74 then (readWord [0x72, 0x75, 0x65] r).map (.bool true, ·)
    else if b = 0x66 then (readWord [0x61, 0x6C, 0x73, 0x65] r).map (.bool false, ·)
    else if b = minusSign then readNumber true r
    else if isDigit b then readNumber false (b :: r)
    else if b = quoteMark then (readString r).map fun (text, rest) => (.string text, rest)
    else .error ⟨.expectedValue, r⟩

/-! ## Lists and objects -/

/-- Up to the next element of a list: `none` at the closing bracket, which is left. -/
def nextElement (isFirst : Bool) (s : Bytes) : Except Fault (Option Bytes) :=
  match skipSpace s with
  | [] => .error ⟨.endInList, []⟩
  | b :: r =>
    if b = closeBracket then .ok none
    else if isFirst then .ok (some (b :: r))
    else if b = comma then
      match skipSpace r with
      | [] => .error ⟨.endInValue, []⟩
      | c :: r => if c = closeBracket then .error ⟨.trailingComma, r⟩ else .ok (some (c :: r))
    else .error ⟨.expectedListCommaOrEnd, r⟩

/-- What follows the closing bracket of a list. -/
def closeList (s : Bytes) : Except Fault Bytes :=
  match skipSpace s with
  | [] => .error ⟨.endInList, []⟩
  | b :: r =>
    if b = closeBracket then .ok r
    else if b = comma then
      let r := skipSpace r
      .error (.next (if r.head? = some closeBracket then .trailingComma else .trailingCharacters) r)
    else .error ⟨.trailingCharacters, r⟩

/-- The next name of an object: `none` at the closing brace, which is left. -/
def nextName (isFirst : Bool) (s : Bytes) : Except Fault (Option (String × Bytes)) :=
  match skipSpace s with
  | [] => .error ⟨.endInObject, []⟩
  | b :: r =>
    if b = closeBrace then .ok none
    else if isFirst then
      if b = quoteMark then (readString r).map some else .error ⟨.keyNotString, r⟩
    else if b = comma then
      match skipSpace r with
      | [] => .error ⟨.endInValue, []⟩
      | c :: r =>
        if c = quoteMark then (readString r).map some
        else .error ⟨if c = closeBrace then .trailingComma else .keyNotString, r⟩
    else .error ⟨.expectedObjectCommaOrEnd, r⟩

/-- What follows the closing brace of an object. -/
def closeObject (s : Bytes) : Except Fault Bytes :=
  match skipSpace s with
  | [] => .error ⟨.endInObject, []⟩
  | b :: r =>
    if b = closeBrace then .ok r
    else .error ⟨if b = comma then .trailingComma else .trailingCharacters, r⟩

/-- What follows the colon after a name. -/
def readColon (s : Bytes) : Except Fault Bytes :=
  match skipSpace s with
  | [] => .error ⟨.endInObject, []⟩
  | b :: r => if b = colon then .ok r else .error ⟨.expectedColon, r⟩

/-- The end of a text: only space may be left. -/
def readEnd (s : Bytes) : Except Fault Unit :=
  match skipSpace s with
  | [] => .ok ()
  | _ :: r => .error ⟨.trailingCharacters, r⟩

end AccessDecision.Json
