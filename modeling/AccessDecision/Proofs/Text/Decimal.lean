import AccessDecision.Proofs.Json.Number
import AccessDecision.Text.Decimal

set_option autoImplicit false

/-! # Which texts are numbers

The digits are read one by one, and each must leave the number below the bound. Since a number only
grows with further digits, this is the same as to read them all and compare once
(`readDigits_eq_ok_iff`). So exactly the numerals below the bound are read: one digit or more,
perhaps behind a plus sign, and any number of zeros in front. -/

namespace AccessDecision.Text

variable {bound value n : Nat} {cs : List Char} {s : String}

/-! ## Digits -/

theorem isDigit_iff {c : Char} : c.isDigit = true ↔ '0' ≤ c ∧ c ≤ '9' := by
  rw [Char.isDigit_iff_toNat, Char.le_def, Char.le_def, UInt32.le_iff_toNat_le,
    UInt32.le_iff_toNat_le]
  rfl

theorem digit?_eq_some_iff {c : Char} {d : Nat} :
    digit? c = some d ↔ c.isDigit = true ∧ c.toNat - '0'.toNat = d := by
  rw [digit?, isDigit_iff]
  split
  · rename_i hc
    rw [Option.some.injEq, and_iff_right hc]
    rfl
  · rename_i hc
    exact ⟨fun h => absurd h (by simp), fun h => absurd h.1 hc⟩

/-- Further digits do not make a number smaller. -/
theorem le_ofDigitChars (cs : List Char) (value : Nat) : value ≤ Nat.ofDigitChars 10 cs value := by
  induction cs generalizing value with
  | nil => exact Nat.le_refl value
  | cons c cs ih =>
    rw [Nat.ofDigitChars_cons]
    exact Nat.le_trans (by omega) (ih _)

theorem readDigits_eq_ok_iff :
    readDigits bound value cs = .ok n ↔
      (∀ c ∈ cs, c.isDigit = true) ∧ Nat.ofDigitChars 10 cs value = n ∧ (cs = [] ∨ n < bound) := by
  induction cs generalizing value with
  | nil => simp [readDigits]
  | cons c cs ih =>
    rw [readDigits, List.forall_mem_cons, Nat.ofDigitChars_cons]
    cases hdigit : digit? c with
    | none =>
      have hc : ¬ c.isDigit = true := by
        intro hc
        rw [digit?_eq_some_iff.2 ⟨hc, rfl⟩] at hdigit
        exact absurd hdigit (by simp)
      simp [hc]
    | some d =>
      obtain ⟨hc, rfl⟩ := digit?_eq_some_iff.1 hdigit
      simp only [hc, true_and, List.cons_ne_nil, false_or]
      split
      · rename_i hlt
        rw [ih]
        constructor
        · rintro ⟨hcs, hn, hnil | hbound⟩
          · subst hnil
            exact ⟨hcs, hn, hn ▸ hlt⟩
          · exact ⟨hcs, hn, hbound⟩
        · rintro ⟨hcs, hn, hbound⟩
          exact ⟨hcs, hn, Or.inr hbound⟩
      · rename_i hge
        -- the number is beyond the bound already
        constructor
        · intro h
          exact absurd h (by simp)
        · rintro ⟨-, hn, hbound⟩
          exact absurd (Nat.lt_of_le_of_lt (hn ▸ le_ofDigitChars cs _) hbound) hge

/-- The digits of a number below the bound are read as that number. -/
theorem readDigits_natChars (h : n < bound) : readDigits bound 0 (natChars n) = .ok n := by
  refine readDigits_eq_ok_iff.2 ⟨?_, Nat.ofDigitChars_ten_toDigits, Or.inr h⟩
  intro c hc
  exact Char.isDigit_iff_toNat.2 (Json.isDigit_of_mem_natChars hc)

/-! ## Numerals -/

/-- A text of one or more decimal digits, perhaps behind a plus sign, and its value. -/
def IsNumeral (s : String) (n : Nat) : Prop :=
  ∃ digits, (s.toList = digits ∨ s.toList = '+' :: digits) ∧ digits ≠ [] ∧
    (∀ c ∈ digits, c.isDigit = true) ∧ Nat.ofDigitChars 10 digits 0 = n

theorem readBounded_eq_ok_iff : readBounded bound s = .ok n ↔ IsNumeral s n ∧ n < bound := by
  -- without a digit nothing is read, and a digit is no plus sign
  have hsign (rest : List Char) : ¬ ∀ c ∈ '+' :: rest, c.isDigit = true := by
    intro h
    exact absurd (h '+' (List.mem_cons_self ..)) (by decide)
  unfold readBounded IsNumeral
  split
  · rename_i hs
    simp [hs]
  · rename_i hs
    simp [hs, Char.isDigit]
  · rename_i rest hne hs
    rw [readDigits_eq_ok_iff, hs]
    have hrest : rest ≠ [] := by
      rintro rfl
      exact hne rfl
    constructor
    · rintro ⟨hdigits, hn, hbound⟩
      exact ⟨⟨rest, Or.inr rfl, hrest, hdigits, hn⟩, hbound.resolve_left hrest⟩
    · rintro ⟨⟨digits, rfl | hcons, -, hdigits, hn⟩, hbound⟩
      · exact absurd hdigits (hsign rest)
      · obtain rfl := (List.cons.inj hcons).2
        exact ⟨hdigits, hn, Or.inr hbound⟩
  · rename_i hnil _ hcons
    rw [readDigits_eq_ok_iff]
    constructor
    · rintro ⟨hdigits, hn, hbound⟩
      exact ⟨⟨s.toList, Or.inl rfl, hnil, hdigits, hn⟩, hbound.resolve_left hnil⟩
    · rintro ⟨⟨digits, heq | hsigned, -, hdigits, hn⟩, hbound⟩
      · rw [heq]
        exact ⟨hdigits, hn, Or.inr hbound⟩
      · exact absurd hsigned (hcons digits)

/-- A numeral has one value. -/
theorem IsNumeral.unique {m : Nat} (h : IsNumeral s n) (h' : IsNumeral s m) : n = m := by
  have hn : readBounded (n + m + 1) s = .ok n := readBounded_eq_ok_iff.2 ⟨h, by omega⟩
  have hm : readBounded (n + m + 1) s = .ok m := readBounded_eq_ok_iff.2 ⟨h', by omega⟩
  exact Except.ok.inj (hn.symm.trans hm)

theorem IsNumeral.ne_empty (h : IsNumeral s n) : s ≠ "" := by
  rintro rfl
  obtain ⟨digits, hdigits | hsign, hne, -⟩ := h
  · exact hne hdigits.symm
  · exact absurd hsign (by simp)

end AccessDecision.Text
