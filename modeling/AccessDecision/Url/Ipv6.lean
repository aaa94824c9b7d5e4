import AccessDecision.Text.Decimal
import AccessDecision.Text.Hexadecimal
import AccessDecision.Text.Pieces

set_option autoImplicit false

/-! # IPv6 addresses

An address is eight groups of sixteen bits, in hexadecimal digits and parted by colons. Two colons
in a row stand for one or more groups of zero. They are written for the longest run of at least two
such groups, the first one if several are equally long. The last two groups may be read from an IPv4
address. -/

namespace AccessDecision.Url

structure Ipv6 where
  groups : List UInt16
  length_groups : groups.length = 8
  deriving DecidableEq

namespace Ipv6

/-! ## Writing -/

def groupChars (groups : List UInt16) : List Char :=
  [':'].intercalate (groups.map fun g => Text.hexDigits g.toNat)

/-- The length of the run of zeros that the groups start with. -/
def zeros (groups : List UInt16) : Nat := (groups.takeWhile (· = 0)).length

/-- Where the first of the longest runs of zeros starts, and its length. -/
def longestZeros : List UInt16 → Nat × Nat
  | [] => (0, 0)
  | g :: groups =>
    let (start, length) := longestZeros groups
    if length ≤ zeros (g :: groups) then (0, zeros (g :: groups)) else (start + 1, length)

def chars (x : Ipv6) : List Char :=
  let (start, length) := longestZeros x.groups
  if length < 2 then groupChars x.groups
  else groupChars (x.groups.take start) ++ ':' :: ':' :: groupChars (x.groups.drop (start + length))

/-! ## Reading -/

/-- A group: one to four digits. -/
def group? (digits : List Char) : Option UInt16 :=
  if digits.isEmpty || 4 < digits.length then none
  else (digits.mapM Text.hexCharValue?).map fun values =>
    UInt16.ofNat (values.foldl (fun n v => 16 * n + v) 0)

/-- A decimal number below 256 without leading zeros. -/
def byte? (digits : List Char) : Option Nat := do
  let values ← digits.mapM Text.digit?
  let n := values.foldl (fun n v => 10 * n + v) 0
  if digits.isEmpty || n > 255 || (digits.head? = some '0' && 1 < digits.length) then none
  else some n

/-- The two groups of an IPv4 address. -/
def embedded? (cs : List Char) : Option (List UInt16) :=
  match Text.pieces (· = '.') cs with
  | [a, b, c, d] => do
    let a ← byte? a
    let b ← byte? b
    let c ← byte? c
    let d ← byte? d
    .some [UInt16.ofNat (256 * a + b), UInt16.ofNat (256 * c + d)]
  | _ => none

/-- The groups between colons, the last of which may be an IPv4 address if `mixed`. -/
def pieces? (mixed : Bool) : List (List Char) → Option (List UInt16)
  | [] => some []
  | [last] => if mixed && last.contains '.' then embedded? last else (group? last).map ([·])
  | piece :: rest => do .some ((← group? piece) :: (← pieces? mixed rest))

/-- The groups of a part of an address, which may be empty. -/
def part? (mixed : Bool) (cs : List Char) : Option (List UInt16) :=
  if cs.isEmpty then some [] else pieces? mixed (Text.pieces (· = ':') cs)

/-- What stands before and after the first two colons in a row. -/
def splitAtGap : List Char → Option (List Char × List Char)
  | ':' :: ':' :: rest => some ([], rest)
  | c :: rest => (splitAtGap rest).map fun (before, after) => (c :: before, after)
  | [] => none

def ofGroups? (groups : List UInt16) : Option Ipv6 :=
  if h : groups.length = 8 then some ⟨groups, h⟩ else none

def read? (cs : List Char) : Option Ipv6 :=
  match splitAtGap cs with
  | none => do ofGroups? (← pieces? true (Text.pieces (· = ':') cs))
  | some (before, after) => do
    let front ← part? false before
    let back ← part? true after
    if front.length + back.length ≤ 7 then
      ofGroups? (front ++ List.replicate (8 - front.length - back.length) 0 ++ back)
    else none

end Ipv6

end AccessDecision.Url
