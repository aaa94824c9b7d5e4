import AccessDecision.Json.Scan

set_option autoImplicit false

/-! # Passing over a value

A record ignores members that it does not know. Their text is still checked, but less than that of a
value that is kept: brackets may nest to any depth, numbers may have any size, and escapes need not
pair up. So this reader keeps its own stack of open brackets. -/

namespace AccessDecision.Json

/-- An open bracket. -/
inductive Bracket where
  | list
  | object
  deriving DecidableEq, Repr

def Bracket.closing : Bracket → UInt8
  | .list => closeBracket
  | .object => closeBrace

def Bracket.atEnd : Bracket → Cause
  | .list => .endInList
  | .object => .endInObject

def Bracket.expectedCommaOrEnd : Bracket → Cause
  | .list => .expectedListCommaOrEnd
  | .object => .expectedObjectCommaOrEnd

/-! ## Words, numbers and strings -/

/-- What follows the digits after an exponent mark. -/
def skipExponent (s : Bytes) : Except Fault Bytes :=
  let s := if s.head? = some plusSign || s.head? = some minusSign then s.drop 1 else s
  match s with
  | [] => .error ⟨.invalidNumber, []⟩
  | b :: r => if isDigit b then .ok (r.dropWhile isDigit) else .error ⟨.invalidNumber, r⟩

/-- What follows a number whose whole digits have been read. -/
def skipFraction (s : Bytes) : Except Fault Bytes :=
  match s with
  | [] => .ok []
  | b :: r =>
    if b = point then
      match spanDigits r with
      | ([], r) => .error (.next .invalidNumber r)
      | (_, []) => .ok []
      | (_, c :: r) => if isExponentMark c then skipExponent r else .ok (c :: r)
    else if isExponentMark b then skipExponent r
    else .ok (b :: r)

/-- What follows a number, after its sign. -/
def skipNumber (s : Bytes) : Except Fault Bytes :=
  match s with
  | [] => .error ⟨.invalidNumber, []⟩
  | b :: r =>
    if !isDigit b then .error ⟨.invalidNumber, r⟩
    else
      match spanDigits (b :: r) with
      | (0 :: _ :: _, _) => .error (.next .invalidNumber r)
      | (_, rest) => skipFraction rest

/-- Where a reader that passes over a string stands. -/
inductive InSkipped where
  | plain
  | escape
  /-- After `\u` and some digits. -/
  | hex (digits : List UInt8)

/-- What follows a string, after its opening quote. -/
def skipString : InSkipped → Bytes → Except Fault Bytes
  | _, [] => .error ⟨.endInString, []⟩
  | .plain, b :: s =>
    if b = quoteMark then .ok s
    else if b = backslash then skipString .escape s
    else if b < 0x20 then .error ⟨.controlCharacter, b :: s⟩
    else skipString .plain s
  | .escape, b :: s =>
    if b = letterU then skipString (.hex []) s
    else if (shortEscape? b).isSome then skipString .plain s
    else .error ⟨.invalidEscape, s⟩
  | .hex digits, b :: s =>
    if digits.length < 3 then skipString (.hex (digits ++ [b])) s
    else if (hexNumber (digits ++ [b])).isSome then skipString .plain s
    else .error ⟨.invalidEscape, s⟩

/-- What follows a value without parts. -/
def skipScalar (s : Bytes) : Except Fault Bytes :=
  match s with
  | [] => .error ⟨.endInValue, []⟩
  | b :: r =>
    if b = 0x6E then readWord [0x75, 0x6C, 0x6C] r
    else if b = 0x74 then readWord [0x72, 0x75, 0x65] r
    else if b = 0x66 then readWord [0x61, 0x6C, 0x73, 0x65] r
    else if b = minusSign then skipNumber r
    else if isDigit b then skipNumber (b :: r)
    else if b = quoteMark then skipString .plain r
    else .error ⟨.expectedValue, r⟩

/-- What follows a name and its colon. -/
def skipName (s : Bytes) : Except Fault Bytes :=
  match skipSpace s with
  | [] => .error ⟨.endInObject, []⟩
  | b :: r =>
    if b = quoteMark then do readColon (← skipString .plain r) else .error ⟨.keyNotString, r⟩

/-! ## Values -/

/-- What the reader is about to meet. -/
inductive Expect where
  /-- A value. -/
  | value
  /-- The first element of the innermost open bracket, or its end. -/
  | firstOrEnd
  /-- A comma, or the end of the innermost open bracket. -/
  | commaOrEnd

/-- What follows the value that is being passed over, with its open brackets, innermost first. Each
step reads a byte or turns to a value that is there, so twice as many steps as bytes are enough. -/
def skipSteps : (steps : Nat) → Expect → List Bracket → Bytes → Except Fault Bytes
  | 0, _, _, _ => .error ⟨.endInValue, []⟩
  | steps + 1, .value, stack, s =>
    match skipSpace s with
    | [] => .error ⟨.endInValue, []⟩
    | b :: r =>
      if b = openBracket then skipSteps steps .firstOrEnd (.list :: stack) r
      else if b = openBrace then skipSteps steps .firstOrEnd (.object :: stack) r
      else do
        let rest ← skipScalar (b :: r)
        match stack with
        | [] => .ok rest
        | _ :: _ => skipSteps steps .commaOrEnd stack rest
  | _ + 1, .firstOrEnd, [], s => .ok s
  | _ + 1, .commaOrEnd, [], s => .ok s
  | steps + 1, .firstOrEnd, bracket :: stack, s =>
    match skipSpace s with
    | [] => .error ⟨bracket.atEnd, []⟩
    | b :: r =>
      if b = bracket.closing then skipSteps steps .commaOrEnd stack r
      else match bracket with
        | .list => skipSteps steps .value (bracket :: stack) (b :: r)
        | .object => do skipSteps steps .value (bracket :: stack) (← skipName (b :: r))
  | steps + 1, .commaOrEnd, bracket :: stack, s =>
    match skipSpace s with
    | [] => .error ⟨bracket.atEnd, []⟩
    | b :: r =>
      if b = bracket.closing then skipSteps steps .commaOrEnd stack r
      else if b = comma then
        match bracket with
        | .list => skipSteps steps .value (bracket :: stack) r
        | .object => do skipSteps steps .value (bracket :: stack) (← skipName r)
      else .error ⟨bracket.expectedCommaOrEnd, r⟩

/-- With no bracket open the value has been passed over. -/
theorem skipSteps_done (steps : Nat) (s : Bytes) :
    skipSteps (steps + 1) .commaOrEnd [] s = .ok s := by
  rw [skipSteps]

/-- What follows a value of any kind. -/
def skipValue (s : Bytes) : Except Fault Bytes :=
  skipSteps (2 * s.length + 2) .value [] s

end AccessDecision.Json
