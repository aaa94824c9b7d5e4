import AccessDecision.Text.Decimal

set_option autoImplicit false

/-! # Instants and durations

An instant is a whole second since 1970-01-01 00:00:00 UTC and the nanoseconds after it, within the
range of the calendar: about 262 000 years on either side of the year zero. `Instant.text` writes it
as a date of the Gregorian calendar, carried on in both directions. -/

namespace AccessDecision

structure Instant where
  seconds : Int
  nanos : Nat
  min_le : -8334601228800 ≤ seconds
  le_max : seconds ≤ 8210266876799
  nanos_lt : nanos < 1000000000
  deriving DecidableEq

/-- A length of time. -/
structure Duration where
  seconds : UInt64
  nanos : Nat
  nanos_lt : nanos < 1000000000
  deriving DecidableEq

namespace Duration

def ofSeconds (seconds : UInt64) : Duration := ⟨seconds, 0, by decide⟩

end Duration

namespace Instant

/-- An instant of the calendar's range. -/
def of? (seconds : Int) (nanos : Nat) : Option Instant :=
  if h : -8334601228800 ≤ seconds ∧ seconds ≤ 8210266876799 ∧ nanos < 1000000000 then
    some ⟨seconds, nanos, h.1, h.2.1, h.2.2⟩
  else none

def epoch : Instant := ⟨0, 0, by decide, by decide, by decide⟩

/-- The start of a second, or the epoch if the calendar does not reach it. -/
def ofSeconds (seconds : Int) : Instant := (of? seconds 0).getD epoch

/-! ## Dates -/

structure Date where
  year : Int
  month : Nat
  day : Nat
  deriving DecidableEq, Repr

/-- The date of a day, counted from 1970-01-01. Years are taken to start in March, so that the leap
day is the last of its year, and the calendar repeats every 146 097 days, which are 400 years. -/
def Date.ofDays (days : Int) : Date :=
  let shifted := days + 719468
  let era := shifted / 146097
  let dayOfEra := (shifted % 146097).toNat
  let yearOfEra := (dayOfEra - dayOfEra / 1460 + dayOfEra / 36524 - dayOfEra / 146096) / 365
  let dayOfYear := dayOfEra - (365 * yearOfEra + yearOfEra / 4 - yearOfEra / 100)
  let monthFromMarch := (5 * dayOfYear + 2) / 153
  let day := dayOfYear - (153 * monthFromMarch + 2) / 5 + 1
  let month := if monthFromMarch < 10 then monthFromMarch + 3 else monthFromMarch - 9
  let year : Int := yearOfEra + era * 400 + (if month ≤ 2 then 1 else 0)
  ⟨year, month, day⟩

/-- A number in at least `width` digits. -/
def padded (width n : Nat) : List Char :=
  let digits := Text.natChars n
  List.replicate (width - digits.length) '0' ++ digits

/-- A year of more than four digits has a sign, as a negative one has. -/
def yearChars (year : Int) : List Char :=
  let sign := if year < 0 then ['-'] else if 9999 < year then ['+'] else []
  sign ++ padded 4 year.natAbs

/-- The date and the time of day. -/
def text (t : Instant) : String :=
  let date := Date.ofDays (t.seconds / 86400)
  let second := (t.seconds % 86400).toNat
  String.ofList (yearChars date.year ++ '-' :: padded 2 date.month ++ '-' :: padded 2 date.day ++
    ' ' :: padded 2 (second / 3600) ++ ':' :: padded 2 (second / 60 % 60) ++
    ':' :: padded 2 (second % 60) ++ [' ', 'U', 'T', 'C'])

end Instant

namespace Duration

/-- A number of units and the digits of a fraction, without the zeros at its end. -/
def decimal (whole fraction width : Nat) (unit : String) : String :=
  let digits := ((Instant.padded width fraction).reverse.dropWhile (· = '0')).reverse
  Text.natText whole ++ (if digits.isEmpty then "" else "." ++ String.ofList digits) ++ unit

/-- The duration as diagnostics show it, in the largest unit of which it has at least one. -/
def diagnostic (d : Duration) : String :=
  if 0 < d.seconds then decimal d.seconds.toNat d.nanos 9 "s"
  else if 1000000 ≤ d.nanos then decimal (d.nanos / 1000000) (d.nanos % 1000000) 6 "ms"
  else if 1000 ≤ d.nanos then decimal (d.nanos / 1000) (d.nanos % 1000) 3 "µs"
  else decimal d.nanos 0 0 "ns"

end Duration

end AccessDecision
