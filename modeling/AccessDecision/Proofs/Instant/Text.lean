import AccessDecision.Proofs.Instant.Date
import AccessDecision.Proofs.Json.Number

set_option autoImplicit false

/-! # What the text of an instant names

A text names a second if it shows the date and the time of day of that second. The text of an
instant names the second in which the instant lies (`names_text`), and no text names two seconds
(`Names.unique`): only the year has no fixed width, and it stands in front of everything else. -/

namespace AccessDecision.Instant

variable {m n : Nat}

/-! ## Numbers with zeros in front -/

theorem isDigit_of_mem_padded {width : Nat} {c : Char} (h : c ∈ padded width n) :
    0x30 ≤ c.toNat ∧ c.toNat ≤ 0x39 := by
  rcases List.mem_append.1 h with hzero | hdigit
  · rw [List.eq_of_mem_replicate hzero]
    decide
  · exact Json.isDigit_of_mem_natChars hdigit

theorem ofDigitChars_padded (width n : Nat) : Nat.ofDigitChars 10 (padded width n) 0 = n := by
  have hzeros (count : Nat) : Nat.ofDigitChars 10 (List.replicate count '0') 0 = 0 := by
    induction count with
    | zero => rfl
    | succ count ih =>
      rw [List.replicate_succ, Nat.ofDigitChars_cons]
      exact ih
  rw [padded, Nat.ofDigitChars_append, hzeros]
  exact Nat.ofDigitChars_ten_toDigits

theorem length_padded_two : ∀ n < 100, (padded 2 n).length = 2 := by
  decide +kernel

/-- Two digits at the end of a text tell their number and what stands before them. -/
theorem append_padded_two_inj {cs ds : List Char} {mark : Char} (hm : m < 100) (hn : n < 100)
    (h : cs ++ mark :: padded 2 m = ds ++ mark :: padded 2 n) : cs = ds ∧ m = n := by
  have hlength : (mark :: padded 2 m).length = (mark :: padded 2 n).length := by
    rw [List.length_cons, List.length_cons, length_padded_two m hm, length_padded_two n hn]
  obtain ⟨hfront, hback⟩ := List.append_inj' h hlength
  refine ⟨hfront, ?_⟩
  have hvalue := congrArg (Nat.ofDigitChars 10 · 0) (List.cons.inj hback).2
  simpa only [ofDigitChars_padded] using hvalue

/-! ## Years -/

theorem minus_mem_yearChars_iff {year : Int} : '-' ∈ yearChars year ↔ year < 0 := by
  have hdigits : '-' ∉ padded 4 year.natAbs := by
    intro hmem
    exact absurd (isDigit_of_mem_padded hmem) (by decide)
  rw [yearChars]
  by_cases hneg : year < 0
  · simp [hneg]
  · by_cases hlong : 9999 < year
    · simp [hneg, hlong, hdigits]
    · simp [hneg, hlong, hdigits]

/-- As a digit a sign would count nothing. -/
theorem ofDigitChars_yearChars (year : Int) :
    Nat.ofDigitChars 10 (yearChars year) 0 = year.natAbs := by
  rw [yearChars, Nat.ofDigitChars_append]
  split
  · exact ofDigitChars_padded 4 _
  · split
    · exact ofDigitChars_padded 4 _
    · exact ofDigitChars_padded 4 _

theorem yearChars_injective {a b : Int} (h : yearChars a = yearChars b) : a = b := by
  have hsize : a.natAbs = b.natAbs := by
    rw [← ofDigitChars_yearChars, ← ofDigitChars_yearChars, h]
  have hsign : a < 0 ↔ b < 0 := by
    rw [← minus_mem_yearChars_iff, ← minus_mem_yearChars_iff, h]
  omega

/-! ## Dates and times of day -/

/-- A date and a time of day as a text shows them. -/
def dateTimeChars (date : Date) (hour minute second : Nat) : List Char :=
  yearChars date.year ++ '-' :: padded 2 date.month ++ '-' :: padded 2 date.day ++
    ' ' :: padded 2 hour ++ ':' :: padded 2 minute ++ ':' :: padded 2 second ++
    [' ', 'U', 'T', 'C']

/-- The text shows the date and the time of day of a second, counted from 1970-01-01 00:00:00. -/
def Names (s : String) (seconds : Int) : Prop :=
  ∃ (date : Date) (hour minute second : Nat),
    date.IsValid ∧ hour < 24 ∧ minute < 60 ∧ second < 60 ∧
      s = String.ofList (dateTimeChars date hour minute second) ∧
      seconds = date.toDays * 86400 + (hour * 3600 + minute * 60 + second : Nat)

theorem Date.IsValid.month_lt {date : Date} (h : date.IsValid) : date.month < 100 :=
  Nat.lt_of_le_of_lt h.month_le (by decide)

theorem Date.IsValid.day_lt {date : Date} (h : date.IsValid) : date.day < 100 := by
  have hle := h.day_le
  unfold daysInMonth at hle
  split at hle
  · split at hle <;> omega
  · split at hle <;> omega

/-- The text of an instant names its second. -/
theorem names_text (t : Instant) : Names t.text t.seconds := by
  refine ⟨Date.ofDays (t.seconds / 86400), (t.seconds % 86400).toNat / 3600,
    (t.seconds % 86400).toNat / 60 % 60, (t.seconds % 86400).toNat % 60,
    Date.isValid_ofDays _, by omega, by omega, by omega, rfl, ?_⟩
  rw [Date.toDays_ofDays]
  omega

/-- A text names one second at most. -/
theorem Names.unique {s : String} {a b : Int} (ha : Names s a) (hb : Names s b) : a = b := by
  obtain ⟨date, hour, minute, second, hdate, hhour, hminute, hsecond, rfl, rfl⟩ := ha
  obtain ⟨date', hour', minute', second', hdate', hhour', hminute', hsecond', htext, rfl⟩ := hb
  -- taken off from the end, every part has two digits but the year
  have hchars := List.append_cancel_right (String.ofList_injective htext)
  obtain ⟨hclock, hsecondEq⟩ := append_padded_two_inj (by omega) (by omega) hchars
  obtain ⟨hhours, hminuteEq⟩ := append_padded_two_inj (by omega) (by omega) hclock
  obtain ⟨hdates, hhourEq⟩ := append_padded_two_inj (by omega) (by omega) hhours
  obtain ⟨hmonths, hdayEq⟩ := append_padded_two_inj hdate.day_lt hdate'.day_lt hdates
  obtain ⟨hyears, hmonthEq⟩ := append_padded_two_inj hdate.month_lt hdate'.month_lt hmonths
  have hdateEq : date = date' := by
    obtain ⟨year, month, day⟩ := date
    obtain ⟨year', month', day'⟩ := date'
    rw [Date.mk.injEq]
    exact ⟨yearChars_injective hyears, hmonthEq, hdayEq⟩
  rw [hdateEq, hhourEq, hminuteEq, hsecondEq]

end AccessDecision.Instant
