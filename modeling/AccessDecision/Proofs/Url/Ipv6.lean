import AccessDecision.Proofs.Text.Pieces
import AccessDecision.Url.Ipv6
import Mathlib.Data.Nat.Digits.Defs

set_option autoImplicit false

/-! # IPv6 addresses are read from their text

Each group is written in one to four digits that are read as the group, and no text of groups has two
colons in a row but where the longest run of zeros is left out. So an address comes back from its
text (`read?_chars`). -/

namespace AccessDecision.Url.Ipv6

open Text

variable {n : Nat} {c d : Char} {cs rest : List Char} {groups : List UInt16} {x : Ipv6}

/-! ## One group -/

theorem hexCharValue?_digitChar : ∀ v < 16, hexCharValue? (Nat.digitChar v) = some v := by decide

theorem digitChar_ne : ∀ v < 16, Nat.digitChar v ≠ ':' ∧ Nat.digitChar v ≠ '.' ∧
    Nat.digitChar v ≠ '[' ∧ Nat.digitChar v ≠ ']' ∧ ' ' < Nat.digitChar v := by decide

/-- The digits of a number have its value. -/
theorem exists_mapM_hexDigits (n : Nat) : ∃ values, (hexDigits n).mapM hexCharValue? = some values ∧
    values.foldl (fun n v => 16 * n + v) 0 = n := by
  induction n using Nat.strongRecOn with
  | _ n ih =>
    by_cases hlt : n < 16
    · refine ⟨[n], ?_, by simp⟩
      rw [hexDigits, Nat.toDigits_of_lt_base hlt]
      simp [hexCharValue?_digitChar n hlt]
    · obtain ⟨values, hvalues, hfold⟩ := ih (n / 16) (by omega)
      have hlast := hexCharValue?_digitChar (n % 16) (Nat.mod_lt _ (by decide))
      refine ⟨values ++ [n % 16], ?_, ?_⟩
      · rw [hexDigits, Nat.toDigits_of_base_le (by decide) (by omega), List.mapM_append, ← hexDigits,
          hvalues]
        simp [hlast]
      · rw [List.foldl_append, hfold]
        simp only [List.foldl_cons, List.foldl_nil]
        omega

theorem exists_of_mem_hexDigits (h : c ∈ hexDigits n) : ∃ v < 16, c = Nat.digitChar v := by
  induction n using Nat.strongRecOn with
  | _ n ih =>
    by_cases hlt : n < 16
    · rw [hexDigits, Nat.toDigits_of_lt_base hlt, List.mem_singleton] at h
      exact ⟨n, hlt, h⟩
    · rw [hexDigits, Nat.toDigits_of_base_le (by decide) (by omega), List.mem_append,
        List.mem_singleton] at h
      rcases h with hfront | hlast
      · exact ih (n / 16) (by omega) hfront
      · exact ⟨n % 16, Nat.mod_lt _ (by decide), hlast⟩

theorem hexDigits_ne_nil (n : Nat) : hexDigits n ≠ [] := Nat.toDigits_ne_nil

theorem colon_not_mem_hexDigits (n : Nat) : ∀ c ∈ hexDigits n, decide (c = ':') = false := by
  intro c hc
  obtain ⟨v, hv, rfl⟩ := exists_of_mem_hexDigits hc
  exact decide_eq_false (digitChar_ne v hv).1

theorem group?_hexDigits (g : UInt16) : group? (hexDigits g.toNat) = some g := by
  obtain ⟨values, hvalues, hfold⟩ := exists_mapM_hexDigits g.toNat
  have hlength : (hexDigits g.toNat).length ≤ 4 :=
    Nat.toDigits_length 16 g.toNat 4 (by decide) g.toNat_lt
  have hnonempty : (hexDigits g.toNat).isEmpty = false := by
    simpa using hexDigits_ne_nil g.toNat
  rw [group?, if_neg (by simp [hnonempty, hlength]), hvalues, Option.map_some, hfold,
    UInt16.ofNat_toNat]

/-! ## Groups between colons -/

theorem groupChars_cons (g h : UInt16) (groups : List UInt16) :
    groupChars (g :: h :: groups) = hexDigits g.toNat ++ ':' :: groupChars (h :: groups) := by
  simp [groupChars, List.intercalate]

theorem groupChars_singleton (g : UInt16) : groupChars [g] = hexDigits g.toNat := by
  simp [groupChars, List.intercalate]

/-- Digits come first. -/
theorem exists_groupChars_eq_cons (g : UInt16) (groups : List UInt16) :
    ∃ c cs, groupChars (g :: groups) = c :: cs ∧ c ≠ ':' := by
  cases hdigits : hexDigits g.toNat with
  | nil => exact absurd hdigits (hexDigits_ne_nil _)
  | cons c cs =>
    have hc : c ≠ ':' := of_decide_eq_false
      (colon_not_mem_hexDigits g.toNat c (hdigits ▸ List.mem_cons_self ..))
    cases groups with
    | nil => exact ⟨c, cs, by rw [groupChars_singleton, hdigits], hc⟩
    | cons h groups => exact ⟨c, _, by rw [groupChars_cons, hdigits, List.cons_append], hc⟩

theorem pieces_groupChars (g : UInt16) (groups : List UInt16) :
    pieces (· = ':') (groupChars (g :: groups)) =
      (g :: groups).map fun g => hexDigits g.toNat := by
  induction groups generalizing g with
  | nil => rw [groupChars_singleton, pieces_eq_singleton (colon_not_mem_hexDigits _)]; rfl
  | cons h groups ih =>
    rw [groupChars_cons, pieces_append_cons (colon_not_mem_hexDigits _) (by decide), ih h]
    rfl

theorem pieces?_hexDigits (mixed : Bool) (groups : List UInt16) :
    pieces? mixed (groups.map fun g => hexDigits g.toNat) = some groups := by
  induction groups with
  | nil => rfl
  | cons g groups ih =>
    cases groups with
    | nil =>
      have hdot : (hexDigits g.toNat).contains '.' = false := by
        rw [List.contains_eq_mem, decide_eq_false_iff_not]
        intro hmem
        obtain ⟨v, hv, heq⟩ := exists_of_mem_hexDigits hmem
        exact (digitChar_ne v hv).2.1 heq.symm
      rw [List.map_singleton, pieces?, hdot, Bool.and_false, group?_hexDigits]
      rfl
    | cons h groups =>
      rw [List.map_cons, List.map_cons, pieces?]
      · rw [List.map_cons] at ih
        rw [ih, group?_hexDigits]
        rfl
      · simp

theorem part?_groupChars (mixed : Bool) (groups : List UInt16) :
    part? mixed (groupChars groups) = some groups := by
  cases groups with
  | nil => rfl
  | cons g groups =>
    obtain ⟨c, cs, hchars, -⟩ := exists_groupChars_eq_cons g groups
    rw [part?, if_neg (by simp [hchars]), pieces_groupChars, pieces?_hexDigits]

/-! ## The gap -/

theorem splitAtGap_of_ne (h : c ≠ ':') :
    splitAtGap (c :: rest) = (splitAtGap rest).map fun p => (c :: p.1, p.2) := by
  rw [splitAtGap]
  simp [h]

theorem splitAtGap_of_next_ne (h : d ≠ ':') :
    splitAtGap (':' :: d :: rest) = (splitAtGap (d :: rest)).map fun p => (':' :: p.1, p.2) := by
  rw [splitAtGap]
  simp [h]

theorem splitAtGap_append (h : ∀ c ∈ cs, decide (c = ':') = false) :
    splitAtGap (cs ++ rest) = (splitAtGap rest).map fun p => (cs ++ p.1, p.2) := by
  induction cs with
  | nil => simp
  | cons c cs ih =>
    obtain ⟨hc, hcs⟩ := List.forall_mem_cons.1 h
    rw [List.cons_append, splitAtGap_of_ne (of_decide_eq_false hc), ih hcs, Option.map_map]
    rfl

/-- Groups between colons have no gap. -/
theorem splitAtGap_groupChars (groups : List UInt16) :
    splitAtGap (groupChars groups ++ rest) =
      (splitAtGap rest).map fun p => (groupChars groups ++ p.1, p.2) := by
  induction groups with
  | nil => simp [groupChars, List.intercalate]
  | cons g groups ih =>
    cases groups with
    | nil => rw [groupChars_singleton, splitAtGap_append (colon_not_mem_hexDigits _)]
    | cons h groups =>
      obtain ⟨c, cs, hchars, hc⟩ := exists_groupChars_eq_cons h groups
      rw [groupChars_cons, List.append_assoc, splitAtGap_append (colon_not_mem_hexDigits _),
        List.cons_append]
      rw [hchars, List.cons_append] at ih ⊢
      rw [splitAtGap_of_next_ne hc, ih, Option.map_map, Option.map_map]
      congr 1
      funext p
      simp

/-! ## The longest run of zeros -/

/-- The groups start with their zeros. -/
theorem eq_zeros_append (groups : List UInt16) :
    groups = List.replicate (zeros groups) 0 ++ groups.dropWhile (· = 0) := by
  have hzeros : groups.takeWhile (· = 0) = List.replicate (zeros groups) 0 := by
    refine List.eq_replicate_iff.2 ⟨rfl, fun g hg => ?_⟩
    exact of_decide_eq_true (List.all_eq_true.1 List.all_takeWhile g hg)
  rw [← hzeros, List.takeWhile_append_dropWhile]

/-- The longest run of zeros stands where it is said to stand. -/
theorem exists_longestZeros (groups : List UInt16) :
    ∃ front back, front.length = (longestZeros groups).1 ∧
      groups = front ++ (List.replicate (longestZeros groups).2 0 ++ back) := by
  induction groups with
  | nil => exact ⟨[], [], rfl, rfl⟩
  | cons g groups ih =>
    obtain ⟨front, back, hlength, hgroups⟩ := ih
    rw [longestZeros]
    dsimp only
    split
    · exact ⟨[], _, rfl, eq_zeros_append (g :: groups)⟩
    · exact ⟨g :: front, back, by rw [List.length_cons, hlength],
        by rw [List.cons_append, ← hgroups]⟩

/-! ## Addresses -/

theorem ofGroups?_groups (x : Ipv6) : ofGroups? x.groups = some x := dif_pos x.length_groups

theorem read?_groupChars (x : Ipv6) : read? (groupChars x.groups) = some x := by
  have hnone : splitAtGap (groupChars x.groups) = none := by
    rw [← List.append_nil (groupChars x.groups), splitAtGap_groupChars, splitAtGap, Option.map_none]
  rw [read?, hnone]
  cases hall : x.groups with
  | nil => exact absurd x.length_groups (by rw [hall]; simp)
  | cons g groups =>
    dsimp only
    rw [pieces_groupChars, pieces?_hexDigits, ← hall]
    exact ofGroups?_groups x

/-- Two colons are read as the zeros that are missing, of which there must be one. -/
theorem read?_gap {front back : List UInt16} {zeros : Nat} (hzeros : 0 < zeros)
    (hgroups : x.groups = front ++ (List.replicate zeros 0 ++ back)) :
    read? (groupChars front ++ ':' :: ':' :: groupChars back) = some x := by
  have hcount : front.length + (zeros + back.length) = 8 := by
    rw [← x.length_groups, hgroups]
    simp
  have hmissing : 8 - front.length - back.length = zeros := by omega
  rw [read?, splitAtGap_groupChars, splitAtGap, Option.map_some, List.append_nil]
  dsimp only
  rw [part?_groupChars, part?_groupChars]
  simp only [Option.bind_eq_bind, Option.bind_some]
  rw [if_pos (by omega), hmissing, List.append_assoc, ← hgroups]
  exact ofGroups?_groups x

/-- The text of an address is its groups between colons, with a gap for two zeros or more. -/
theorem chars_cases (x : Ipv6) : x.chars = groupChars x.groups ∨ ∃ front back zeros, 2 ≤ zeros ∧
    x.groups = front ++ (List.replicate zeros 0 ++ back) ∧
      x.chars = groupChars front ++ ':' :: ':' :: groupChars back := by
  obtain ⟨front, back, hstart, hgroups⟩ := exists_longestZeros x.groups
  by_cases hshort : (longestZeros x.groups).2 < 2
  · exact Or.inl (if_pos hshort)
  · have hchars : x.chars = groupChars (x.groups.take (longestZeros x.groups).1) ++ ':' :: ':' ::
        groupChars (x.groups.drop ((longestZeros x.groups).1 + (longestZeros x.groups).2)) :=
      if_neg hshort
    generalize (longestZeros x.groups).1 = start at *
    generalize (longestZeros x.groups).2 = zeros at *
    have htake : x.groups.take start = front := by rw [hgroups, ← hstart, List.take_left]
    have hdrop : x.groups.drop (start + zeros) = back := by
      rw [hgroups, ← hstart, ← List.drop_drop, List.drop_left]
      exact List.drop_left' (List.length_replicate ..)
    exact Or.inr ⟨front, back, zeros, by omega, hgroups, by rw [hchars, htake, hdrop]⟩

/-- An address is read from its text. -/
theorem read?_chars (x : Ipv6) : read? x.chars = some x := by
  rcases x.chars_cases with hchars | ⟨front, back, zeros, hzeros, hgroups, hchars⟩
  · rw [hchars, read?_groupChars]
  · rw [hchars, read?_gap (by omega) hgroups]

/-! ## What stands in the text -/

/-- The text of an address holds digits and colons only. -/
theorem of_mem_groupChars (h : c ∈ groupChars groups) :
    c = ':' ∨ ∃ v < 16, c = Nat.digitChar v := by
  induction groups with
  | nil => exact absurd h (by simp [groupChars, List.intercalate])
  | cons g rest ih =>
    cases rest with
    | nil =>
      rw [groupChars_singleton] at h
      exact Or.inr (exists_of_mem_hexDigits h)
    | cons g' rest =>
      rw [groupChars_cons, List.mem_append, List.mem_cons] at h
      rcases h with h | rfl | h
      · exact Or.inr (exists_of_mem_hexDigits h)
      · exact Or.inl rfl
      · exact ih h

theorem of_mem_chars (h : c ∈ x.chars) : c = ':' ∨ ∃ v < 16, c = Nat.digitChar v := by
  rcases x.chars_cases with hchars | ⟨front, back, zeros, -, -, hchars⟩
  · exact of_mem_groupChars (hchars ▸ h)
  · rw [hchars, List.mem_append, List.mem_cons, List.mem_cons] at h
    rcases h with h | rfl | rfl | h
    · exact of_mem_groupChars h
    · exact Or.inl rfl
    · exact Or.inl rfl
    · exact of_mem_groupChars h

end AccessDecision.Url.Ipv6
