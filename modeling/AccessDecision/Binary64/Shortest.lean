import AccessDecision.Binary64.Basic

set_option autoImplicit false

/-! # The shortest decimal that reads back

`shortest` finds, for a positive number, the decimal `digits * 10 ^ scale` with the fewest digits
among those that are nearer to the number than to any other, and of several such the one nearest to
the number. It goes from coarse to fine decimal grids and stops at the first grid with a point in
that interval: if a grid has one at all, then one of the two neighbours of the number on the grid is
one. -/

namespace AccessDecision.Binary64

/-- A decimal, `digits * 10 ^ scale`. -/
structure Decimal where
  digits : Nat
  scale : Int
  deriving DecidableEq, Repr

/-- The interval of the reals that round to a number, in quarters of its last place: its lower end,
its upper end, and whether the ends belong to it. -/
structure Interval where
  low : Nat
  high : Nat
  closed : Bool

/-- Below a power of two the numbers lie twice as dense. -/
def interval (x : Binary64) : Interval where
  low := if x.significand = 0x10000000000000 && -1074 < x.exponent then 4 * x.significand - 1
    else 4 * x.significand - 2
  high := 4 * x.significand + 2
  closed := x.significand % 2 == 0

/-- The point of the grid of multiples of `10 ^ scale` that lies in the interval and nearest to the
number. -/
def onGrid (x : Binary64) (scale : Int) : Option Nat :=
  let (p, q) := powerOfTwo (x.exponent - 2)
  let (r, s) := powerOfTen scale
  let grid := r * q
  let unit := p * s
  let i := x.interval
  let inside (d : Nat) : Bool :=
    if i.closed then i.low * unit ≤ d * grid && d * grid ≤ i.high * unit
    else i.low * unit < d * grid && d * grid < i.high * unit
  let target := 4 * x.significand * unit
  let below := target / grid
  let nearest := roundHalfEven target grid
  if inside nearest then some nearest
  else if inside below then some below
  else if inside (below + 1) then some (below + 1)
  else none

/-- The first grid with a point in the interval, from `scale` downwards. -/
def searchGrid (x : Binary64) : (steps : Nat) → (scale : Int) → Decimal
  | 0, scale => ⟨0, scale⟩
  | steps + 1, scale =>
    match x.onGrid scale with
    | some digits => ⟨digits, scale⟩
    | none => searchGrid x steps (scale - 1)

/-- The decimal with the fewest digits that reads back as a number other than zero. -/
def shortest (x : Binary64) : Decimal :=
  let top : Int := x.exponent + x.significand.log2
  let start := if 0 ≤ top then top / 3 + 1 else top * 3 / 10 + 1
  searchGrid x 400 start

end AccessDecision.Binary64
