import AccessDecision.Text.Blank
import Mathlib.Data.List.DropRight

set_option autoImplicit false

/-! # What trimming leaves

A text that has been trimmed neither starts nor ends with white space (`trimmed_trim`), and such a
text stays as it is. So a second trimming changes nothing, and white space around a text makes no
difference to what is left of it. -/

namespace AccessDecision.Text

variable {cs : List Char}

/-- No white space at either end. -/
def Trimmed (s : String) : Prop :=
  (∀ c ∈ s.toList.head?, isWhite c = false) ∧ ∀ c ∈ s.toList.getLast?, isWhite c = false

theorem trimChars_eq (cs : List Char) :
    trimChars cs = (cs.dropWhile isWhite).rdropWhile isWhite := rfl

theorem toList_trim (s : String) : (trim s).toList = trimChars s.toList := by
  rw [trim, String.toList_ofList]

/-- What is left starts as the text did once the white space in front of it was gone. -/
theorem isWhite_head_trimChars {c : Char} (h : (trimChars cs).head? = some c) :
    isWhite c = false := by
  obtain ⟨rest, hrest⟩ : trimChars cs <+: cs.dropWhile isWhite := List.rdropWhile_prefix ..
  obtain ⟨front, hfront⟩ := List.head?_eq_some_iff.1 h
  rw [hfront, List.cons_append] at hrest
  exact head_dropWhile_isWhite hrest.symm

theorem isWhite_getLast_trimChars {c : Char} (h : (trimChars cs).getLast? = some c) :
    isWhite c = false := by
  obtain ⟨hne, rfl⟩ := List.mem_getLast?_eq_getLast (Option.mem_def.2 h)
  exact Bool.eq_false_iff.2 (List.rdropWhile_last_not isWhite _ hne)

theorem trimmed_trim (s : String) : Trimmed (trim s) := by
  rw [Trimmed, toList_trim]
  exact ⟨fun c hc => isWhite_head_trimChars hc, fun c hc => isWhite_getLast_trimChars hc⟩

/-- Nothing is taken off a text without white space at its ends. -/
theorem trim_eq_self {s : String} (h : Trimmed s) : trim s = s := by
  apply String.toList_injective
  rw [toList_trim, trimChars_eq]
  have hfront : s.toList.dropWhile isWhite = s.toList := by
    cases hs : s.toList with
    | nil => rfl
    | cons c cs =>
      have hc : isWhite c = false := h.1 c (by rw [hs]; rfl)
      rw [List.dropWhile_cons_of_neg (by simp [hc])]
  rw [hfront]
  refine List.rdropWhile_eq_self_iff.2 ?_
  intro hne hlast
  have hwhite := h.2 _ (List.getLast?_eq_some_getLast hne)
  exact absurd (hwhite.symm.trans hlast) (by simp)

theorem trim_eq_self_iff {s : String} : trim s = s ↔ Trimmed s :=
  ⟨fun h => h ▸ trimmed_trim s, trim_eq_self⟩

instance : DecidablePred Trimmed := fun _ => decidable_of_iff _ trim_eq_self_iff

@[simp] theorem trim_trim (s : String) : trim (trim s) = trim s := trim_eq_self (trimmed_trim s)

/-- A text is blank exactly if it is after trimming. -/
@[simp] theorem isBlank_trim (s : String) : isBlank (trim s) = isBlank s := by
  rw [Bool.eq_iff_iff, ← trim_eq_empty_iff, ← trim_eq_empty_iff, trim_trim]

end AccessDecision.Text
