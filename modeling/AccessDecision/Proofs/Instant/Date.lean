import AccessDecision.Instant

set_option autoImplicit false

/-! # The date of a day

The Gregorian calendar is carried on in both directions: a year is a leap year every four years, but
not every hundred, and again every four hundred. `Date.toDays` counts the days up to a date by years
and months. `Date.ofDays` goes the other way by cycles of 400 years that start in March, and finds
for every day a date of the calendar that counts back to it (`Date.isValid_ofDays`,
`Date.toDays_ofDays`). -/

namespace AccessDecision.Instant

/-! ## Years and months -/

def isLeap (year : Int) : Bool := year % 4 = 0 && (year % 100 ≠ 0 || year % 400 = 0)

def daysInMonth (leap : Bool) (month : Nat) : Nat :=
  if month = 2 then (if leap then 29 else 28)
  else if month = 4 ∨ month = 6 ∨ month = 9 ∨ month = 11 then 30
  else 31

/-- The days of a year before a month. -/
def daysBeforeMonth (leap : Bool) (month : Nat) : Nat :=
  (List.range' 1 (month - 1)).foldl (fun days earlier => days + daysInMonth leap earlier) 0

/-- The days from the start of the year one to that of a year. -/
def daysBeforeYear (year : Int) : Int :=
  365 * (year - 1) + (year - 1) / 4 - (year - 1) / 100 + (year - 1) / 400

theorem daysBeforeYear_succ (year : Int) :
    daysBeforeYear (year + 1) = daysBeforeYear year + (if isLeap year then 366 else 365) := by
  simp only [daysBeforeYear, isLeap, Bool.and_eq_true, Bool.or_eq_true, decide_eq_true_eq]
  split <;> omega

namespace Date

/-- A date that the calendar has. -/
structure IsValid (d : Date) : Prop where
  one_le_month : 1 ≤ d.month
  month_le : d.month ≤ 12
  one_le_day : 1 ≤ d.day
  day_le : d.day ≤ daysInMonth (isLeap d.year) d.month

/-- The days from 1970-01-01 to a date. -/
def toDays (d : Date) : Int :=
  daysBeforeYear d.year + daysBeforeMonth (isLeap d.year) d.month + (d.day - 1) -
    daysBeforeYear 1970

/-! ## Years that start in March -/

/-- The days of a cycle of 400 years before one of its years, each with its leap day at the end. -/
def daysBeforeMarch (year : Nat) : Nat := 365 * year + year / 4 - year / 100

/-- A year starts ten months after the one that starts in March before it. -/
theorem daysBeforeYear_era (era : Int) {year : Nat} (h : year ≤ 399) :
    daysBeforeYear (era * 400 + year + 1) = 146097 * era + daysBeforeMarch year := by
  simp only [daysBeforeYear, daysBeforeMarch]
  omega

/-- A day of the cycle by centuries, fours of years, years and days. Only the last of each may be a
    day longer. -/
theorem exists_parts {n : Nat} (h : n < 146097) : ∃ century four year day,
    n = 36524 * century + 1461 * four + 365 * year + day ∧ century ≤ 3 ∧ four ≤ 24 ∧ year ≤ 3 ∧
      day ≤ 365 ∧ (day = 365 → year = 3 ∧ (four = 24 → century = 3)) := by
  obtain ⟨century, hcentury⟩ : ∃ c, min (n / 36524) 3 = c := ⟨_, rfl⟩
  obtain ⟨inCentury, hinCentury⟩ : ∃ m, n - 36524 * century = m := ⟨_, rfl⟩
  obtain ⟨year, hyear⟩ : ∃ y, min (inCentury % 1461 / 365) 3 = y := ⟨_, rfl⟩
  refine ⟨century, inCentury / 1461, year, inCentury % 1461 - 365 * year, ?_⟩
  omega

/-- Taking away the leap days that the number of a day has passed leaves years of 365 days. -/
theorem yearOfEra_eq {n century four year day : Nat}
    (hn : n = 36524 * century + 1461 * four + 365 * year + day) (hcentury : century ≤ 3)
    (hfour : four ≤ 24) (hyear : year ≤ 3) (hday : day ≤ 365)
    (hlast : day = 365 → year = 3 ∧ (four = 24 → century = 3)) :
    (n - n / 1460 + n / 36524 - n / 146096) / 365 = 100 * century + 4 * four + year := by
  -- the last day of the cycle counts as one of a fifth century, which is taken away again
  have hcenturies : n / 36524 - n / 146096 = century := by omega
  have hle : n / 146096 ≤ n / 36524 := by omega
  have hfours : n / 1460 = 25 * century + four +
      (24 * century + four + 365 * year + day) / 1460 := by omega
  have hdays : n - n / 1460 + n / 36524 - n / 146096 =
      1460 * (25 * century + four) + (365 * year + day) -
        (24 * century + four + 365 * year + day) / 1460 := by omega
  rw [hdays]
  omega

theorem exists_yearOfEra {n : Nat} (h : n < 146097) : ∃ year day,
    (n - n / 1460 + n / 36524 - n / 146096) / 365 = year ∧ year ≤ 399 ∧
      n = daysBeforeMarch year + day ∧ day ≤ 365 ∧
      ∀ era : Int, day = 365 → isLeap (era * 400 + year + 1) = true := by
  obtain ⟨century, four, year, day, hn, hcentury, hfour, hyear, hday, hlast⟩ := exists_parts h
  refine ⟨100 * century + 4 * four + year, day,
    yearOfEra_eq hn hcentury hfour hyear hday hlast, by omega, ?_, hday, ?_⟩
  · have hquarter : (100 * century + 4 * four + year) / 4 = 25 * century + four := by omega
    have hhundredth : (100 * century + 4 * four + year) / 100 = century := by omega
    simp only [daysBeforeMarch, hquarter, hhundredth]
    omega
  · intro era hlong
    obtain ⟨rfl, hend⟩ := hlast hlong
    simp only [isLeap, Bool.and_eq_true, Bool.or_eq_true, decide_eq_true_eq]
    omega

/-- The month and the day of each day from March on. The first two months are those of the next
    year, and only its leap day is the 366th. -/
theorem month_and_day : ∀ n < 366,
    let fromMarch := (5 * n + 2) / 153
    let day := n - (153 * fromMarch + 2) / 5 + 1
    let month := if fromMarch < 10 then fromMarch + 3 else fromMarch - 9
    1 ≤ month ∧ month ≤ 12 ∧ 1 ≤ day ∧
      (∀ leap, (month ≤ 2 → n = 365 → leap = true) → day ≤ daysInMonth leap month) ∧
      ∀ leap, daysBeforeMonth leap month + day - 1 + (if month ≤ 2 then 306 else 0) =
        n + if month ≤ 2 then 0 else if leap then 60 else 59 := by
  decide +kernel

/-! ## The date of a day -/

theorem ofDays_spec (days : Int) : (ofDays days).IsValid ∧ (ofDays days).toDays = days := by
  obtain ⟨n, hn⟩ : ∃ n : Nat, ((days + 719468) % 146097).toNat = n := ⟨_, rfl⟩
  obtain ⟨era, hera⟩ : ∃ era, (days + 719468) / 146097 = era := ⟨_, rfl⟩
  obtain ⟨march, dayOfYear, hmarch, hle, hparts, hday, hleap⟩ :=
    exists_yearOfEra (n := n) (by omega)
  have hdayOfYear : n - (365 * march + march / 4 - march / 100) = dayOfYear := by
    rw [daysBeforeMarch] at hparts
    omega
  have hdays : days + 719468 = 146097 * era + daysBeforeMarch march + dayOfYear := by omega
  have hepoch : daysBeforeYear 1970 = 719162 := rfl
  have hstart := daysBeforeYear_era era hle
  have hnext := daysBeforeYear_succ (era * 400 + march)
  obtain ⟨hone, htwelve, hfirst, hlast, hcount⟩ := month_and_day dayOfYear (by omega)
  simp only [ofDays, hn, hera, hmarch, hdayOfYear]
  generalize (if (5 * dayOfYear + 2) / 153 < 10 then (5 * dayOfYear + 2) / 153 + 3
    else (5 * dayOfYear + 2) / 153 - 9) = month at *
  generalize dayOfYear - (153 * ((5 * dayOfYear + 2) / 153) + 2) / 5 + 1 = day at *
  by_cases hlate : month ≤ 2
  · -- January and February belong to the year after that of the March before
    simp only [hlate, if_true, true_implies] at hcount hlast ⊢
    have hyear : (march : Int) + era * 400 + 1 = era * 400 + march + 1 := by omega
    rw [hyear]
    refine ⟨⟨hone, htwelve, hfirst, hlast _ (hleap era)⟩, ?_⟩
    have hbefore := hcount (isLeap (era * 400 + march + 1))
    simp only [toDays, hepoch]
    omega
  · simp only [hlate, if_false, false_implies, true_implies] at hcount hlast ⊢
    have hyear : (march : Int) + era * 400 + 0 = era * 400 + march := by omega
    rw [hyear]
    refine ⟨⟨hone, htwelve, hfirst, hlast _⟩, ?_⟩
    have hbefore := hcount (isLeap (era * 400 + march))
    simp only [toDays, hepoch]
    cases hkind : isLeap (era * 400 + march) with
    | true | false =>
      simp only [hkind, if_true, Bool.false_eq_true, if_false] at hbefore hnext ⊢
      omega

theorem isValid_ofDays (days : Int) : (ofDays days).IsValid := (ofDays_spec days).1

theorem toDays_ofDays (days : Int) : (ofDays days).toDays = days := (ofDays_spec days).2

end Date

end AccessDecision.Instant
