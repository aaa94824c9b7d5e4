set_option autoImplicit false

/-! # Finite binary64 numbers

A number is a sign and `significand * 2 ^ exponent`, with the significand below `2 ^ 53` and the
exponent between `-1074` and `971`. All arithmetic is exact on natural numbers and rounded once, by
`ofRatio`: to the nearest such number, and to an even significand where two are equally near. `none`
stands for a result that is too large. -/

namespace AccessDecision

structure Binary64 where
  negative : Bool
  significand : Nat
  exponent : Int
  deriving DecidableEq, Repr

namespace Binary64

def zero (negative : Bool) : Binary64 := ⟨negative, 0, -1074⟩

/-- The quotient, rounded to the nearest natural number, and to an even one where two are equally
near. -/
def roundHalfEven (num den : Nat) : Nat :=
  let quotient := num / den
  let twice := 2 * (num % den)
  if den < twice || (twice == den && quotient % 2 == 1) then quotient + 1 else quotient

/-- `2 ^ e` as a quotient of natural numbers. -/
def powerOfTwo (e : Int) : Nat × Nat :=
  if 0 ≤ e then (Nat.pow 2 e.toNat, 1) else (1, Nat.pow 2 (-e).toNat)

/-- `10 ^ k` as a quotient of natural numbers. -/
def powerOfTen (k : Int) : Nat × Nat :=
  if 0 ≤ k then (Nat.pow 10 k.toNat, 1) else (1, Nat.pow 10 (-k).toNat)

/-- The greatest `e` with `2 ^ e ≤ num / den`, for positive `num` and `den`. -/
def floorLog2 (num den : Nat) : Int :=
  let e : Int := (num.log2 : Int) - den.log2
  let (p, q) := powerOfTwo e
  if p * den ≤ num * q then e else e - 1

/-- The number nearest to `num / den`. -/
def ofRatio (negative : Bool) (num den : Nat) : Option Binary64 :=
  if num = 0 then some (zero negative)
  else
    let e := max (-1074) (floorLog2 num den - 52)
    let (p, q) := powerOfTwo e
    let m := roundHalfEven (num * q) (den * p)
    let rounded := if m = 0x20000000000000 then (0x10000000000000, e + 1) else (m, e)
    if 971 < rounded.2 then none else some ⟨negative, rounded.1, rounded.2⟩

/-- The absolute value as a quotient of natural numbers. -/
def ratio (x : Binary64) : Nat × Nat :=
  let (p, q) := powerOfTwo x.exponent
  (x.significand * p, q)

def ofNat (n : Nat) : Option Binary64 := ofRatio false n 1

/-- The number nearest to the product of two numbers. -/
def mul (x y : Binary64) : Option Binary64 :=
  let (n, d) := x.ratio
  let (n', d') := y.ratio
  ofRatio (x.negative != y.negative) (n * n') (d * d')

/-- The number nearest to the quotient of two numbers, the second not zero. -/
def div (x y : Binary64) : Option Binary64 :=
  let (n, d) := x.ratio
  let (n', d') := y.ratio
  ofRatio (x.negative != y.negative) (n * d') (d * n')

/-! ## Decimal scaling

A decimal literal is read as its digits, rounded to a number, and then scaled by a power of ten that
is rounded too (powers up to `10 ^ 22` are exact). So a literal need not be read as the number
nearest to it. -/

/-- A number divided by a power of ten, by `10 ^ 308` at a time. -/
def scaleDown (x : Binary64) (k : Nat) : Option Binary64 :=
  if x.significand = 0 then some x
  else if k ≤ 308 then do x.div (← ofNat (Nat.pow 10 k))
  else do scaleDown (← x.div (← ofNat (Nat.pow 10 308))) (k - 308)
termination_by k

/-- A number multiplied by a power of ten, which must be a number itself. -/
def scaleUp (x : Binary64) (k : Nat) : Option Binary64 :=
  if x.significand = 0 then some x
  else if k ≤ 308 then do x.mul (← ofNat (Nat.pow 10 k))
  else none

/-- The number that `digits * 10 ^ exponent` is read as. -/
def ofDecimal (negative : Bool) (digits : Nat) (exponent : Int) : Option Binary64 := do
  let x ← ofNat digits
  let y ← if 0 ≤ exponent then x.scaleUp exponent.toNat else x.scaleDown (-exponent).toNat
  some { y with negative }

end Binary64

end AccessDecision
