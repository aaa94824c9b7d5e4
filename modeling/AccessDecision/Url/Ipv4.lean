import AccessDecision.Text.Decimal
import AccessDecision.Text.Hexadecimal
import AccessDecision.Text.Pieces

set_option autoImplicit false

/-! # IPv4 addresses

An address is written as four decimal numbers. It is read from up to four numbers in decimal, octal
or hexadecimal notation, of which the last one fills all the bytes that are left. -/

namespace AccessDecision.Url

structure Ipv4 where
  a : UInt8
  b : UInt8
  c : UInt8
  d : UInt8
  deriving DecidableEq, Repr

namespace Ipv4

def chars (x : Ipv4) : List Char :=
  ['.'].intercalate ([x.a, x.b, x.c, x.d].map fun byte => Text.natChars byte.toNat)

/-- The address of a number below `2 ^ 32`. -/
def ofNat (n : Nat) : Ipv4 :=
  ⟨UInt8.ofNat (n / 0x1000000), UInt8.ofNat (n / 0x10000), UInt8.ofNat (n / 0x100),
    UInt8.ofNat n⟩

/-- The number of some digits, if all of them are digits below `base`. -/
def ofDigits? (base : Nat) (digits : List Char) : Option Nat :=
  digits.foldl (fun n c => do
    let value ← n
    let digit ← Text.hexCharValue? c
    if digit < base then some (base * value + digit) else none) (some 0)

/-- A number in one of three notations: `0x` and hexadecimal digits, possibly none; `0` and octal
digits; decimal digits. -/
def number? : List Char → Option Nat
  | [] => none
  | ['0'] => some 0
  | '0' :: c :: digits =>
    if c = 'x' || c = 'X' then ofDigits? 16 digits else ofDigits? 8 (c :: digits)
  | digits => ofDigits? 10 digits

/-- The labels of a domain without the empty one behind a final dot. -/
def labels (domain : List Char) : List (List Char) :=
  let labels := Text.pieces (· = '.') domain
  if labels.getLast? = some [] then labels.dropLast else labels

/-- A domain whose last label is a number must be an address. -/
def isDue (domain : List Char) : Bool :=
  match (labels domain).getLast? with
  | none => false
  | some last => (!last.isEmpty && last.all Char.isDigit) || (number? last).isSome

/-- The number of an address, from numbers of which all but the last stand for one byte each. -/
def combine? (numbers : List Nat) : Option Nat :=
  match numbers.reverse with
  | [] => none
  | last :: bytes =>
    if last < Nat.pow 256 (4 - bytes.length) && bytes.all (· < 256) && bytes.length < 4 then
      some (bytes.reverse.foldl (fun n b => 256 * n + b) 0 * Nat.pow 256 (4 - bytes.length) + last)
    else none

def ofDomain? (domain : List Char) : Option Ipv4 := do
  let numbers ← (labels domain).mapM number?
  .some (ofNat (← combine? numbers))

end Ipv4

end AccessDecision.Url
