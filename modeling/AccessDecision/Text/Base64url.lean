import AccessDecision.Bytes

set_option autoImplicit false

/-! # Base64 for URLs, without padding

Three bytes are written as four symbols of six bits; one or two bytes left over as two or three
symbols whose unused low bits are zero. `decode` reads only what `encode` writes and tells apart the
ways in which a text can fail: a symbol outside the alphabet, a lone last symbol, unused bits that
are set, and padding after correct data. -/

namespace AccessDecision.Text.Base64url

/-! ## The alphabet -/

def alphabet : List Char :=
  "ABCDEFGHIJKLMNOPQRSTUVWXYZabcdefghijklmnopqrstuvwxyz0123456789-_".toList

/-- The symbol of a six-bit value. -/
def symbol (value : Nat) : Char := alphabet.getD value 'A'

/-- The six-bit value of a symbol, given as its byte. -/
def value? (b : UInt8) : Option Nat :=
  let n := b.toNat
  if 65 ≤ n && n ≤ 90 then some (n - 65)
  else if 97 ≤ n && n ≤ 122 then some (n - 71)
  else if 48 ≤ n && n ≤ 57 then some (n + 4)
  else if n = 45 then some 62
  else if n = 95 then some 63
  else none

/-- The byte of `=`. -/
def padding : UInt8 := 61

/-! ## Writing -/

def encodeChars : Bytes → List Char
  | [] => []
  | [a] => [symbol (a.toNat / 4), symbol (a.toNat % 4 * 16)]
  | [a, b] =>
    [symbol (a.toNat / 4), symbol (a.toNat % 4 * 16 + b.toNat / 16), symbol (b.toNat % 16 * 4)]
  | a :: b :: c :: rest =>
    symbol (a.toNat / 4) :: symbol (a.toNat % 4 * 16 + b.toNat / 16) ::
      symbol (b.toNat % 16 * 4 + c.toNat / 64) :: symbol (c.toNat % 64) :: encodeChars rest

def encode (bytes : Bytes) : String := String.ofList (encodeChars bytes)

/-! ## Reading -/

/-- Why a text is not read. -/
inductive Fault where
  | invalidSymbol (byte : UInt8) (offset : Nat)
  | invalidLength (length : Nat)
  | invalidLastSymbol (byte : UInt8) (offset : Nat)
  | invalidPadding
  deriving DecidableEq, Repr

def Fault.message : Fault → String
  | .invalidSymbol byte offset => s!"Invalid symbol {byte.toNat}, offset {offset}."
  | .invalidLength length => s!"Invalid input length: {length}"
  | .invalidLastSymbol byte offset => s!"Invalid last symbol {byte.toNat}, offset {offset}."
  | .invalidPadding => "Invalid padding"

def valueAt (offset : Nat) (b : UInt8) : Except Fault Nat :=
  match value? b with
  | some v => .ok v
  | none => .error (.invalidSymbol b offset)

/-- The values of the symbols in front of the first `=`, with what stands from there on. -/
def values (offset : Nat) : Bytes → Except Fault (List Nat × Bytes)
  | [] => .ok ([], [])
  | b :: rest =>
    if b = padding then .ok ([], b :: rest)
    else do
      let v ← valueAt offset b
      let (vs, rest) ← values (offset + 1) rest
      .ok (v :: vs, rest)

/-- The bytes of the last group, of at most four symbols. -/
def decodeLast (offset : Nat) (group : Bytes) : Except Fault Bytes := do
  let (vs, rest) ← values offset group
  if !rest.isEmpty then
    if vs.length < 2 || rest.any (· ≠ padding) then
      .error (.invalidSymbol padding (offset + vs.length))
    else .error .invalidPadding
  else
    let last := group.getLastD 0
    match vs with
    | [] => .ok []
    | [_] => .error (.invalidLength (offset + 1))
    | [a, b] =>
      if b % 16 = 0 then .ok [UInt8.ofNat (a * 4 + b / 16)]
      else .error (.invalidLastSymbol last (offset + 1))
    | [a, b, c] =>
      if c % 4 = 0 then .ok [UInt8.ofNat (a * 4 + b / 16), UInt8.ofNat (b % 16 * 16 + c / 4)]
      else .error (.invalidLastSymbol last (offset + 2))
    | a :: b :: c :: d :: _ =>
      .ok [UInt8.ofNat (a * 4 + b / 16), UInt8.ofNat (b % 16 * 16 + c / 4),
        UInt8.ofNat (c % 4 * 64 + d)]

/-- The bytes of the groups from `offset` on. The last group may be short, or padded. -/
def decodeFrom (offset : Nat) : Bytes → Except Fault Bytes
  | a :: b :: c :: d :: e :: rest => do
    let a ← valueAt offset a
    let b ← valueAt (offset + 1) b
    let c ← valueAt (offset + 2) c
    let d ← valueAt (offset + 3) d
    let decoded ← decodeFrom (offset + 4) (e :: rest)
    .ok (UInt8.ofNat (a * 4 + b / 16) :: UInt8.ofNat (b % 16 * 16 + c / 4) ::
      UInt8.ofNat (c % 4 * 64 + d) :: decoded)
  | group => decodeLast offset group

/-- The bytes that a text, given as its bytes, writes. A lone last symbol outside the alphabet is
reported before any other fault. -/
def decode (text : Bytes) : Except Fault Bytes :=
  let last := text.getLastD padding
  if text.length % 4 = 1 && last ≠ padding && (value? last).isNone then
    .error (.invalidSymbol last (text.length - 1))
  else decodeFrom 0 text

end AccessDecision.Text.Base64url
