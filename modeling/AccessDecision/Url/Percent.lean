import AccessDecision.Text.Hexadecimal
import AccessDecision.Text.Utf8

set_option autoImplicit false

/-! # Percent encoding

Each part of a URL has a set of ASCII characters that are written as a percent sign and the two
digits of their byte. What is not ASCII is always written so, byte by byte. -/

namespace AccessDecision.Url.Percent

/-- The ASCII characters that a part of a URL does not hold as they are. -/
abbrev EncodeSet := Char → Bool

/-- The controls. -/
def controls : EncodeSet := fun c => c.toNat < 0x20 || c.toNat = 0x7F

def fragment : EncodeSet := fun c => controls c || [' ', '"', '<', '>', '\x60'].contains c

def query : EncodeSet := fun c => controls c || [' ', '"', '#', '<', '>'].contains c

/-- The query of a URL whose scheme the web knows. -/
def webQuery : EncodeSet := fun c => query c || c = '\''

def path : EncodeSet := fun c => fragment c || ['#', '?', '^', '\x7b', '\x7d'].contains c

def userInfo : EncodeSet := fun c =>
  path c || ['/', ':', ';', '=', '@', '[', '\\', ']', '|'].contains c

/-- A byte as a percent sign and two digits. -/
def encodeByte (b : UInt8) : List Char :=
  ['%', Text.upperHexDigit (b.toNat / 16), Text.upperHexDigit (b.toNat % 16)]

def encodeChar (set : EncodeSet) (c : Char) : List Char :=
  if c.toNat < 0x80 && !set c then [c] else (String.utf8EncodeChar c).flatMap encodeByte

def encode (set : EncodeSet) (cs : List Char) : List Char := cs.flatMap (encodeChar set)

/-- The byte of a percent sign. -/
abbrev percentSign : UInt8 := 0x25

/-- The bytes with each percent sign and its two digits replaced. A percent sign without two digits
stands for itself. -/
def decode : Bytes → Bytes
  | b :: high :: low :: rest =>
    match decide (b = percentSign), Text.hexValue? high, Text.hexValue? low with
    | true, some h, some l => UInt8.ofNat (16 * h + l) :: decode rest
    | _, _, _ => b :: decode (high :: low :: rest)
  | rest => rest

end AccessDecision.Url.Percent
