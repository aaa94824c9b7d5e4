import AccessDecision.Bytes

set_option autoImplicit false

/-! # UTF-8

`encode` writes a text. `decode` reads one and names the first place where the bytes are no UTF-8: a
sequence that no character starts with, or a text that ends inside a character. `decodeLossy` reads
any bytes, with U+FFFD for each such sequence. Both readers go byte by byte and remember at most one
unfinished character (`Partial`). -/

namespace AccessDecision.Text.Utf8

/-- The bytes of a list of characters. -/
def encodeChars (cs : List Char) : Bytes :=
  cs.flatMap String.utf8EncodeChar

/-- The bytes of a text. -/
def encode (s : String) : Bytes :=
  encodeChars s.toList

@[simp] theorem encodeChars_nil : encodeChars [] = [] := rfl

@[simp] theorem encodeChars_cons (c : Char) (cs : List Char) :
    encodeChars (c :: cs) = String.utf8EncodeChar c ++ encodeChars cs := rfl

@[simp] theorem encodeChars_append (cs ds : List Char) :
    encodeChars (cs ++ ds) = encodeChars cs ++ encodeChars ds := by
  simp [encodeChars]

/-! ## Unfinished characters -/

/-- A character of which some bytes have been read. -/
structure Partial where
  /-- How many bytes have been read. -/
  seen : Nat
  /-- How many are still to come. -/
  owed : Nat
  /-- The least byte that may come next. -/
  low : Nat
  /-- The greatest byte that may come next. -/
  high : Nat
  /-- The bits of the code point read so far. -/
  bits : Nat

/-- What one more byte makes of a character. -/
inductive Step where
  | char (c : Char)
  | unfinished (p : Partial)
  | invalid

/-- The first byte of a character. -/
def first (b : UInt8) : Step :=
  let n := b.toNat
  if n < 0x80 then .char (Char.ofNat n)
  else if n < 0xC2 then .invalid
  else if n < 0xE0 then .unfinished ⟨1, 1, 0x80, 0xBF, n - 0xC0⟩
  else if n < 0xF0 then
    let low := if n = 0xE0 then 0xA0 else 0x80
    let high := if n = 0xED then 0x9F else 0xBF
    .unfinished ⟨1, 2, low, high, n - 0xE0⟩
  else if n < 0xF5 then
    let low := if n = 0xF0 then 0x90 else 0x80
    let high := if n = 0xF4 then 0x8F else 0xBF
    .unfinished ⟨1, 3, low, high, n - 0xF0⟩
  else .invalid

/-- A further byte of a character. -/
def Partial.next (p : Partial) (b : UInt8) : Step :=
  let n := b.toNat
  if n < p.low || p.high < n then .invalid
  else
    let bits := 64 * p.bits + (n - 0x80)
    if p.owed ≤ 1 then .char (Char.ofNat bits)
    else .unfinished ⟨p.seen + 1, p.owed - 1, 0x80, 0xBF, bits⟩

/-! ## Strict reading -/

/-- Why bytes are no text. -/
inductive Fault where
  /-- The `length` bytes from `index` on start no character. -/
  | invalid (length index : Nat)
  /-- The bytes end inside the character that starts at `index`. -/
  | incomplete (index : Nat)
  deriving DecidableEq, Repr

def Fault.message : Fault → String
  | .invalid length index => s!"invalid utf-8 sequence of {length} bytes from index {index}"
  | .incomplete index => s!"incomplete utf-8 byte sequence from index {index}"

/-- Where the bytes that are no character start. -/
def Fault.index : Fault → Nat
  | .invalid _ index => index
  | .incomplete index => index

/-- The characters of the bytes from `index` on, after those of an unfinished character. -/
def decodeFrom : (index : Nat) → Option Partial → Bytes → Except Fault (List Char)
  | _, none, [] => .ok []
  | index, some p, [] => .error (.incomplete (index - p.seen))
  | index, none, b :: rest =>
    match first b with
    | .char c => (decodeFrom (index + 1) none rest).map (c :: ·)
    | .unfinished p => decodeFrom (index + 1) (some p) rest
    | .invalid => .error (.invalid 1 index)
  | index, some p, b :: rest =>
    match p.next b with
    | .char c => (decodeFrom (index + 1) none rest).map (c :: ·)
    | .unfinished q => decodeFrom (index + 1) (some q) rest
    | .invalid => .error (.invalid p.seen (index - p.seen))

/-- The text that the bytes write. -/
def decode (bytes : Bytes) : Except Fault String :=
  (decodeFrom 0 none bytes).map String.ofList

/-! ## Lossy reading -/

/-- What stands for bytes that are no character. -/
def replacement : Char := Char.ofNat 0xFFFD

/-- The characters of the bytes, after those of an unfinished character. A byte that cannot go on
with a character ends it and starts the next one. -/
def decodeLossyFrom : Option Partial → Bytes → List Char
  | none, [] => []
  | some _, [] => [replacement]
  | none, b :: rest =>
    match first b with
    | .char c => c :: decodeLossyFrom none rest
    | .unfinished p => decodeLossyFrom (some p) rest
    | .invalid => replacement :: decodeLossyFrom none rest
  | some p, b :: rest =>
    match p.next b with
    | .char c => c :: decodeLossyFrom none rest
    | .unfinished q => decodeLossyFrom (some q) rest
    | .invalid =>
      replacement :: match first b with
        | .char c => c :: decodeLossyFrom none rest
        | .unfinished q => decodeLossyFrom (some q) rest
        | .invalid => replacement :: decodeLossyFrom none rest

/-- The text that the bytes write, with U+FFFD for what is no UTF-8. -/
def decodeLossy (bytes : Bytes) : String :=
  String.ofList (decodeLossyFrom none bytes)

end AccessDecision.Text.Utf8
