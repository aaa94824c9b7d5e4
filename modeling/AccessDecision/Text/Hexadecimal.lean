import AccessDecision.Bytes

set_option autoImplicit false

/-! # Hexadecimal digits -/

namespace AccessDecision.Text

/-- The lower-case hexadecimal digits of a number. -/
def hexDigits (n : Nat) : List Char := Nat.toDigits 16 n

/-- The upper-case digit of a four-bit value. -/
def upperHexDigit (value : Nat) : Char := "0123456789ABCDEF".toList.getD value '0'

/-- The value of a digit in either case, given as its byte. -/
def hexValue? (b : UInt8) : Option Nat :=
  let n := b.toNat
  if 48 ≤ n && n ≤ 57 then some (n - 48)
  else if 65 ≤ n && n ≤ 70 then some (n - 55)
  else if 97 ≤ n && n ≤ 102 then some (n - 87)
  else none

/-- The value of a digit in either case. -/
def hexCharValue? (c : Char) : Option Nat :=
  if c.toNat < 128 then hexValue? (UInt8.ofNat c.toNat) else none

end AccessDecision.Text
