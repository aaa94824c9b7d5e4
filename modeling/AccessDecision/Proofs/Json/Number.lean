import AccessDecision.Json.Scan
import AccessDecision.Proofs.Outcome
import AccessDecision.Proofs.Text.Utf8

set_option autoImplicit false

/-! # Reading back a whole number

A whole number is written in its decimal digits without leading zeros, after a minus sign if it is
negative. The reader takes every digit it finds, so what follows must not go on with the number:
`EndsNumber`. Within 64 bits no digit is dropped, and the number comes back as a whole one. -/

namespace AccessDecision.Json

open Outcome Text.Utf8

/-- What follows a number does not go on with it. -/
def EndsNumber (rest : Bytes) : Prop :=
  ∀ b r, rest = b :: r → isDigit b = false ∧ b ≠ point ∧ isExponentMark b = false

/-! ## Digits -/

theorem isDigit_of_mem_natChars {n : Nat} {c : Char} (h : c ∈ Text.natChars n) :
    0x30 ≤ c.toNat ∧ c.toNat ≤ 0x39 :=
  Char.isDigit_iff_toNat.1 (Nat.isDigit_of_mem_toDigits (by decide) (by decide) h)

/-- Only zero starts with a zero. -/
theorem head_natChars_ne_zero {n : Nat} (hn : 0 < n) :
    ∀ c cs, Text.natChars n = c :: cs → c ≠ '0' := by
  induction n using Nat.strongRecOn with
  | _ n ih =>
    intro c cs h
    unfold Text.natChars at h ih
    by_cases hlt : n < 10
    · rw [Nat.toDigits_of_lt_base hlt] at h
      simp only [List.cons.injEq] at h
      obtain ⟨rfl, -⟩ := h
      intro hzero
      have hval := congrArg Char.toNat hzero
      have hdigit := Nat.toNat_digitChar_sub_48_of_lt_ten hlt
      simp only [Char.reduceToNat] at hval
      omega
    · rw [Nat.toDigits_of_base_le (by decide) (by omega)] at h
      cases hq : Nat.toDigits 10 (n / 10) with
      | nil => exact absurd hq Nat.toDigits_ne_nil
      | cons d ds =>
        rw [hq, List.cons_append] at h
        simp only [List.cons.injEq] at h
        obtain ⟨rfl, -⟩ := h
        exact ih (n / 10) (by omega) (by omega) d ds hq

theorem foldl_natChars (n : Nat) :
    ((Text.natChars n).map fun c => c.toNat - 48).foldl (fun m d => 10 * m + d) 0 = n := by
  have h : Nat.ofDigitChars 10 (Nat.toDigits 10 n) 0 = n := Nat.ofDigitChars_ten_toDigits
  rw [Nat.ofDigitChars_eq_foldl] at h
  rw [List.foldl_map]
  exact h

theorem digit_byte {c : Char} (hc : 0x30 ≤ c.toNat ∧ c.toNat ≤ 0x39) :
    (UInt8.ofNat c.toNat).toNat = c.toNat ∧ isDigit (UInt8.ofNat c.toNat) = true := by
  have hbyte : (UInt8.ofNat c.toNat).toNat = c.toNat := by
    rw [UInt8.toNat_ofNat']
    omega
  refine ⟨hbyte, ?_⟩
  simp only [isDigit, Bool.and_eq_true, decide_eq_true_eq, UInt8.le_iff_toNat_le, hbyte]
  exact hc

/-- Digits in front of something else are taken all. -/
theorem spanDigits_append {digits t : Bytes} (hdigits : ∀ b ∈ digits, isDigit b = true)
    (htail : ∀ b r, t = b :: r → isDigit b = false) :
    spanDigits (digits ++ t) = (digits.map digitValue, t) := by
  have htake : t.takeWhile isDigit = [] ∧ t.dropWhile isDigit = t := by
    cases t with
    | nil => exact ⟨rfl, rfl⟩
    | cons b r =>
      have hb := htail b r rfl
      exact ⟨List.takeWhile_cons_of_neg (by simp [hb]), List.dropWhile_cons_of_neg (by simp [hb])⟩
  rw [spanDigits, List.takeWhile_append_of_pos hdigits, List.dropWhile_append_of_pos hdigits,
    htake.1, htake.2, List.append_nil]

theorem spanDigits_encodeChars {cs : List Char} (hcs : ∀ c ∈ cs, 0x30 ≤ c.toNat ∧ c.toNat ≤ 0x39)
    {rest : Bytes} (hrest : EndsNumber rest) :
    spanDigits (encodeChars cs ++ rest) = (cs.map fun c => c.toNat - 48, rest) := by
  have hbytes : encodeChars cs = cs.map fun c => UInt8.ofNat c.toNat :=
    encodeChars_of_ascii fun c hc => Nat.lt_of_le_of_lt (hcs c hc).2 (by decide)
  have hdigits : ∀ b ∈ encodeChars cs, isDigit b = true := by
    rw [hbytes, List.forall_mem_map]
    exact fun c hc => (digit_byte (hcs c hc)).2
  have hvalues : (encodeChars cs).map digitValue = cs.map fun c => c.toNat - 48 := by
    rw [hbytes, List.map_map]
    refine List.map_congr_left fun c hc => ?_
    exact congrArg (· - 48) (digit_byte (hcs c hc)).1
  rw [spanDigits_append hdigits fun b r h => (hrest b r h).1, hvalues]

/-- No digit is dropped while the number stays within 64 bits. -/
theorem absorb_eq {ds : List Nat} {significand : Nat}
    (h : ds.foldl (fun m d => 10 * m + d) significand < 0x10000000000000000) :
    absorb significand ds = (ds.foldl (fun m d => 10 * m + d) significand, 0) := by
  induction ds generalizing significand with
  | nil => rfl
  | cons d ds ih =>
    rw [List.foldl_cons] at h
    -- the number only grows, so it is below the bound after each digit if it is at the end
    have hle : ∀ (es : List Nat) (m : Nat), m ≤ es.foldl (fun m d => 10 * m + d) m := by
      intro es
      induction es with
      | nil => exact fun m => Nat.le_refl m
      | cons e es ihes => exact fun m => Nat.le_trans (by omega) (ihes (10 * m + e))
    have hd := hle ds (10 * significand + d)
    rw [absorb, if_pos (by omega), ih h, List.foldl_cons]

/-! ## Numbers -/

theorem readFraction_whole {negative : Bool} {digits : List Nat} {n : Nat}
    (hdigits : absorb 0 digits = (n, 0)) {rest : Bytes} (hrest : EndsNumber rest) :
    readFraction negative digits rest = wholeOrReal negative n rest := by
  unfold readFraction
  rw [hdigits]
  cases rest with
  | nil => rfl
  | cons b r =>
    obtain ⟨-, hpoint, hmark⟩ := hrest b r rfl
    simp [hpoint, hmark]

/-- The digits of a number that 64 bits hold. -/
theorem readNumber_natChars {negative : Bool} {n : Nat} (hn : n < 0x10000000000000000)
    {rest : Bytes} (hrest : EndsNumber rest) :
    readNumber negative (encodeChars (Text.natChars n) ++ rest) =
      wholeOrReal negative n rest := by
  have hdigits : ∀ c ∈ Text.natChars n, 0x30 ≤ c.toNat ∧ c.toNat ≤ 0x39 :=
    fun c hc => isDigit_of_mem_natChars hc
  have hspan := spanDigits_encodeChars hdigits hrest
  have habsorb : absorb 0 ((Text.natChars n).map fun c => c.toNat - 48) = (n, 0) := by
    rw [absorb_eq (by rw [foldl_natChars]; exact hn), foldl_natChars]
  obtain ⟨c, cs, hchars⟩ : ∃ c cs, Text.natChars n = c :: cs :=
    List.exists_cons_of_ne_nil Nat.toDigits_ne_nil
  have hc : 0x30 ≤ c.toNat ∧ c.toNat ≤ 0x39 := hdigits c (by rw [hchars]; exact List.mem_cons_self)
  have hcons : encodeChars (Text.natChars n) ++ rest =
      UInt8.ofNat c.toNat :: (encodeChars cs ++ rest) := by
    rw [hchars, encodeChars_cons, utf8EncodeChar_ascii (by omega)]
    rfl
  rw [hcons] at hspan ⊢
  unfold readNumber
  simp only [(digit_byte hc).2, Bool.not_true, Bool.false_eq_true, if_false, hspan]
  split
  · -- a leading zero with more digits behind it
    rename_i d ds tail heq
    simp only [hchars, List.map_cons, Prod.mk.injEq, List.cons.injEq] at heq
    obtain ⟨⟨hzero, hmore⟩, -⟩ := heq
    have hn : n = 0 ∨ c ≠ '0' := by
      rcases Nat.eq_zero_or_pos n with hn | hn
      · exact Or.inl hn
      · exact Or.inr (head_natChars_ne_zero hn c cs hchars)
    rcases hn with rfl | hne
    · have hcs : cs = [] := (List.cons.inj hchars).2.symm
      rw [hcs] at hmore
      exact absurd hmore (by simp)
    · have hval : c.toNat = 0x30 := by omega
      exact absurd (Char.toNat_inj.1 (show c.toNat = '0'.toNat from hval)) hne
  · rename_i digits tail _ heq
    simp only [Prod.mk.injEq] at heq
    obtain ⟨rfl, rfl⟩ := heq
    exact readFraction_whole habsorb hrest

/-- A whole number comes back whole, whatever its sign. -/
theorem wholeOrReal_whole (w : Whole) (rest : Bytes) :
    wholeOrReal (decide (w.val < 0)) w.val.natAbs rest = .ok (.whole w, rest) := by
  have hvalue : (if decide (w.val < 0) = true then -(w.val.natAbs : Int) else w.val.natAbs) =
      w.val := by
    by_cases h : w.val < 0
    · rw [decide_eq_true h, if_pos rfl]
      omega
    · rw [decide_eq_false h, if_neg Bool.false_ne_true]
      omega
  -- a minus sign in front of zero would make it a real number
  have hzero : ¬ (w.val < 0 ∧ w.val.natAbs = 0) := by omega
  unfold wholeOrReal
  simp only [hvalue, Whole.ofInt?_val]
  rw [if_neg (by simpa using hzero)]

end AccessDecision.Json
