import AccessDecision.Http.Header

set_option autoImplicit false

/-! # Lists of headers

What each way of changing a list of headers does to the values of one name, and that two lists that
are the same but for some names stay so under the same changes. -/

namespace AccessDecision.Http

theorem Header.of_eq_ok {name value : String} (hname : isName (lowered name) = true)
    (hvalue : isValue value = true) :
    Header.of name value = .ok ⟨lowered name, value, hname, hvalue⟩ := by
  rw [Header.of, dif_pos hname, dif_pos hvalue]

theorem Header.of_eq_ok_iff {name value : String} {h : Header} :
    Header.of name value = .ok h ↔ h.name = lowered name ∧ h.value = value := by
  constructor
  · intro hof
    unfold Header.of at hof
    split at hof
    · split at hof
      · obtain rfl := Except.ok.inj hof
        exact ⟨rfl, rfl⟩
      · exact absurd hof (by simp)
    · exact absurd hof (by simp)
  · rintro ⟨hname, rfl⟩
    rw [Header.of_eq_ok (hname ▸ h.isName_name) h.isValue_value]
    simp only [← hname]

namespace Headers

variable {hs hs' own own' : Headers} {h h' : Header} {name : String} {names others : List String}

/-! ## The values of a name -/

theorem values_append (hs hs' : Headers) (name : String) :
    values (hs ++ hs') name = hs.values name ++ hs'.values name := by
  simp only [values, List.filter_append, List.map_append]

theorem values_cons_of_ne (hne : h.name ≠ name) : values (h :: hs) name = hs.values name := by
  simp [values, hne]

theorem values_without_of_mem (hmem : name ∈ names) : (hs.without names).values name = [] := by
  simp only [values, without, List.filter_filter, List.map_eq_nil_iff, List.filter_eq_nil_iff]
  intro h _ hboth
  obtain ⟨rfl, hnot⟩ : h.name = name ∧ h.name ∉ names := by simpa using hboth
  exact hnot hmem

theorem values_without_of_not_mem (hmem : name ∉ names) :
    (hs.without names).values name = hs.values name := by
  simp only [values, without, List.filter_filter]
  congr 1
  refine List.filter_congr fun h _ => ?_
  by_cases hname : h.name = name
  · simp [hname, hmem]
  · simp [hname]

theorem values_set_of_ne (hne : h.name ≠ name) : (hs.set h).values name = hs.values name := by
  rw [set, values_append, values_cons_of_ne hne,
    values_without_of_not_mem (by simpa using hne.symm)]
  exact List.append_nil _

theorem values_cons_of_eq (heq : h.name = name) :
    values (h :: hs) name = h.value :: hs.values name := by
  simp [values, heq]

theorem values_set (hs : Headers) (h : Header) : (hs.set h).values h.name = [h.value] := by
  rw [set, values_append, values_without_of_mem (List.mem_singleton_self _), values_cons_of_eq rfl]
  rfl

/-- Of the headers that are set one after the other, the last one of a name is left. -/
theorem values_foldl_set : (hs'.foldl set hs).values name =
    ((hs'.values name).getLast?.map fun value => [value]).getD (hs.values name) := by
  induction hs' generalizing hs with
  | nil => rfl
  | cons h rest ih =>
    rw [List.foldl_cons, ih]
    by_cases hname : h.name = name
    · subst hname
      rw [values_cons_of_eq rfl, values_set, List.getLast?_cons]
      cases (values rest h.name).getLast? <;> rfl
    · rw [values_cons_of_ne hname, values_set_of_ne hname]

theorem values_eq_nil_iff : hs.values name = [] ↔ hs.has name = false := by
  simp [values, has]

/-- Others fill in the names that are not there. -/
theorem values_complete_of_not_has (hhas : own.has name = false) :
    (own.complete hs).values name = hs.values name := by
  rw [complete, values_append, values_eq_nil_iff.2 hhas, List.nil_append]
  simp only [values, List.filter_filter]
  congr 1
  refine List.filter_congr fun h _ => ?_
  by_cases hname : h.name = name
  · simp [hname, hhas]
  · simp [hname]

/-- Others do not touch the names that are there. -/
theorem values_complete_of_has (hhas : own.has name = true) :
    (own.complete hs).values name = own.values name := by
  have hnone : values (hs.filter fun h => !own.has h.name) name = [] := by
    simp only [values, List.filter_filter, List.map_eq_nil_iff, List.filter_eq_nil_iff]
    intro h _ hboth
    obtain ⟨rfl, hnot⟩ : h.name = name ∧ own.has h.name = false := by simpa using hboth
    exact absurd hhas (by simp [hnot])
  rw [complete, values_append, hnone, List.append_nil]

/-! ## The same but for some names -/

theorem without_append : without (hs ++ hs') names = hs.without names ++ hs'.without names :=
  List.filter_append ..

theorem without_comm : (hs.without names).without others = (hs.without others).without names := by
  simp only [without, List.filter_filter, Bool.and_comm]

theorem without_cons_of_mem (hmem : h.name ∈ names) : without (h :: hs) names = hs.without names := by
  simp [without, hmem]

theorem without_cons_congr (heq : hs.without names = hs'.without names) (h : Header) :
    without (h :: hs) names = without (h :: hs') names := by
  rw [← List.singleton_append, without_append, heq, ← without_append, List.singleton_append]

theorem without_congr (heq : hs.without names = hs'.without names) :
    (hs.without others).without names = (hs'.without others).without names := by
  rw [without_comm, heq, without_comm]

theorem set_congr (heq : hs.without names = hs'.without names) :
    (hs.set h).without names = (hs'.set h).without names := by
  rw [set, set, without_append, without_append, without_congr heq]

theorem complete_congr (heq : own.without names = own'.without names)
    (hhas : ∀ name, own.has name = own'.has name) :
    (own.complete hs).without names = (own'.complete hs).without names := by
  simp only [complete, without_append, heq, hhas]

end Headers

end AccessDecision.Http
