import AccessDecision.Text.Pieces

set_option autoImplicit false

/-! # What the pieces of a text are

Cutting undoes joining: pieces without a separator, joined by separators, are cut into the same
pieces again, and every cut arises so. -/

namespace AccessDecision.Text

variable {isSeparator : Char → Bool}

theorem pieces_eq_singleton {cs : List Char} (h : ∀ c ∈ cs, isSeparator c = false) :
    pieces isSeparator cs = [cs] := by
  induction cs with
  | nil => rfl
  | cons c cs ih =>
    have hc : ¬ isSeparator c = true := by simp [h c (List.mem_cons_self ..)]
    rw [pieces, if_neg hc, ih fun d hd => h d (List.mem_cons_of_mem _ hd)]

/-- The first piece ends at the first separator. -/
theorem pieces_append_cons {before after : List Char} {d : Char}
    (h : ∀ c ∈ before, isSeparator c = false) (hd : isSeparator d = true) :
    pieces isSeparator (before ++ d :: after) = before :: pieces isSeparator after := by
  induction before with
  | nil => rw [List.nil_append, pieces, if_pos hd]
  | cons c before ih =>
    have hc : ¬ isSeparator c = true := by simp [h c (List.mem_cons_self ..)]
    rw [List.cons_append, pieces, if_neg hc, ih fun e he => h e (List.mem_cons_of_mem _ he)]

/-- How a text was cut, by its first piece: it was the only one, or a separator followed. -/
theorem of_pieces_eq_cons {cs p : List Char} {ps : List (List Char)}
    (h : pieces isSeparator cs = p :: ps) :
    (∀ c ∈ p, isSeparator c = false) ∧ (ps = [] ∧ cs = p ∨
      ∃ d after, isSeparator d = true ∧ cs = p ++ d :: after ∧ pieces isSeparator after = ps) := by
  induction cs generalizing p with
  | nil =>
    obtain ⟨rfl, rfl⟩ := List.cons.inj h
    exact ⟨by simp, Or.inl ⟨rfl, rfl⟩⟩
  | cons c cs ih =>
    rw [pieces] at h
    split at h
    · rename_i hc
      obtain ⟨rfl, rfl⟩ := List.cons.inj h
      exact ⟨by simp, Or.inr ⟨c, cs, hc, rfl, rfl⟩⟩
    · rename_i hc
      cases hq : pieces isSeparator cs with
      | nil => exact absurd hq (pieces_ne_nil isSeparator cs)
      | cons q qs =>
        rw [hq] at h
        obtain ⟨rfl, rfl⟩ := List.cons.inj h
        obtain ⟨hfree, hrest⟩ := ih hq
        refine ⟨fun d hd => ?_, ?_⟩
        · rcases List.mem_cons.1 hd with rfl | hd
          · simpa using hc
          · exact hfree d hd
        · rcases hrest with ⟨hnil, rfl⟩ | ⟨d, after, hd, rfl, hafter⟩
          · exact Or.inl ⟨hnil, rfl⟩
          · exact Or.inr ⟨d, after, hd, rfl, hafter⟩

/-- No piece has a separator in it. -/
theorem isSeparator_of_mem_pieces {cs p : List Char} (h : p ∈ pieces isSeparator cs) :
    ∀ c ∈ p, isSeparator c = false := by
  induction hcut : pieces isSeparator cs generalizing cs with
  | nil => exact absurd hcut (pieces_ne_nil isSeparator cs)
  | cons q qs ih =>
    obtain ⟨hfree, hmore⟩ := of_pieces_eq_cons hcut
    rw [hcut] at h
    rcases List.mem_cons.1 h with rfl | hmem
    · exact hfree
    · rcases hmore with ⟨rfl, -⟩ | ⟨_, after, -, -, hafter⟩
      · exact absurd hmem (by simp)
      · exact ih (hafter ▸ hmem) hafter

end AccessDecision.Text
