import AccessDecision.Proofs.Json.Layout
import AccessDecision.Proofs.Json.Record
import AccessDecision.Proofs.Json.Skip
import Mathlib.Data.List.Perm.Basic

set_option autoImplicit false

/-! # Records in any text of their members

The text of an object *carries* members if each of them stands in it, in any order and spelled in
any way, and every other member in it goes by the name of no field (`Layout.Carries`). The written
text of a record is one such text (`Layout.carries_text`), and all of them give the same record
(`Layout.read_of_carries`).

The reader takes one member of the text after the other: the value of a field from its spelling, and
nothing at all from a member of no field, so as far as it is concerned such a member has any value
(`Layout.Gives`). What it reads is therefore what `Layout.assign` makes of these values
(`Layout.readFields_of_gives`), to which their order does not matter. -/

namespace AccessDecision.Json

open Outcome Text.Utf8

variable {l : Layout} {s rest : Bytes} {texts : List (String × Bytes)}
  {values members : List (String × Json)} {isFirst : Bool}

/-! ## Texts of members -/

/-- The members of a record, none of them with parts, in the text of an object that may have further
    members of no field. -/
def Layout.Carries (l : Layout) (members : List (String × Json)) (input : Bytes) : Prop :=
  ∃ texts own further, ObjectText texts input ∧ texts.Perm (own ++ further) ∧
    List.Forall₂ (fun m t => t.1 = m.1 ∧ Spells m.2 t.2) members own ∧
    ∀ t ∈ further, l.field? t.1 = none ∧ IsText .value t.2

/-- What is left after a member does not go on with its number. -/
theorem MembersText.endsNumber (h : MembersText false texts s) (rest : Bytes) :
    EndsNumber (s ++ closeBrace :: rest) := by
  cases h with
  | close hw => exact .append hw (.cons (by decide) _)
  | member hlead =>
    rw [List.append_assoc]
    exact hlead.endsNumber _

/-- Each member takes a byte at least. -/
theorem MembersText.length_le (h : MembersText isFirst texts s) : texts.length ≤ s.length := by
  induction h with
  | close => exact Nat.zero_le _
  | member _ _ _ _ _ ih =>
    simp only [List.length_append, List.length_cons]
    omega

/-! ## What a text gives -/

/-- What the text of a member gives a record: the value of a field that it spells, or nothing, for
    which any value may stand. -/
inductive Layout.Gives (l : Layout) : String × Bytes → String × Json → Prop
  | field {name t v} : (l.field? name).isSome → Spells v t → l.Gives (name, t) (name, v)
  | other {name t v} : l.field? name = none → IsText .value t → l.Gives (name, t) (name, v)

theorem nextName_closing {w : Bytes} (hw : IsBlank w) (isFirst : Bool) (rest : Bytes) :
    nextName isFirst (w ++ closeBrace :: rest) = .ok none := by
  rw [nextName, skipSpace_append hw, skipSpace_cons (by decide)]
  rfl

/-- The fields of an object get what its members give them, and only blanks are left in front of its
    closing brace. -/
theorem Layout.readFields_of_gives (depth : Nat) {steps : Nat} {a a' : Assignment}
    (h : MembersText isFirst texts s) (hgives : List.Forall₂ l.Gives texts values)
    (hsteps : texts.length < steps) (hassign : l.assign a values = .ok a') (rest : Bytes) :
    ∃ w, IsBlank w ∧
      l.readFields depth steps isFirst a (s ++ closeBrace :: rest) =
        .ok (a', w ++ closeBrace :: rest) := by
  obtain ⟨steps, rfl⟩ : ∃ n, steps = n + 1 := ⟨steps - 1, by omega⟩
  induction h generalizing values a steps with
  | close hw =>
    cases hgives
    simp only [Layout.assign, Except.ok.injEq] at hassign
    refine ⟨_, hw, ?_⟩
    rw [Layout.readFields, nextName_closing hw, ok_bind, hassign]
  | @member isFirst lead name content w w' t texts s hlead hname hw hw' hmore ih =>
    rw [List.length_cons] at hsteps
    obtain ⟨steps, rfl⟩ : ∃ n, steps = n + 1 := ⟨steps - 1, by omega⟩
    obtain _ | ⟨hmember, hgives⟩ := hgives
    have hends := hmore.endsNumber rest
    have hnext := nextName_spells hlead hname
      (w ++ colon :: (w' ++ (t ++ (s ++ closeBrace :: rest))))
    have hcolon := readColon_append hw (w' ++ (t ++ (s ++ closeBrace :: rest)))
    simp only [List.append_assoc, List.cons_append]
    cases hmember with
    | field hknown hspells =>
      obtain ⟨f, hfield, hfresh, hcheck, hassign⟩ := Layout.assign_cons hknown hassign
      rw [Layout.readFields_member hnext hcolon hfield hfresh,
        readKind_spells hspells hcheck hw' depth hends, ok_bind]
      exact ih hgives hassign steps (by omega)
    | other hnone htext =>
      rw [Layout.assign, hnone] at hassign
      rw [Layout.readFields_other hnext hcolon hnone, skipValue_of_isText htext hw' hends, ok_bind]
      exact ih hgives hassign steps (by omega)

section Record

variable {α : Type} {build : Assignment → Except Cause α} {record : α} {input : Bytes}

/-- A record of what the members of a text give is read off the text. -/
theorem Layout.read_of_gives (h : ObjectText texts input)
    (hgives : List.Forall₂ l.Gives texts values)
    (hrecord : l.ofJson build (.object values) = .ok record) : l.read build input = .ok record := by
  obtain @⟨w, s, w', hw, hmembers, hw'⟩ := h
  obtain ⟨a, hassign, hbuild⟩ := bind_eq_ok_iff.1 hrecord
  have hlength := hmembers.length_le
  have hsteps : texts.length < (s ++ closeBrace :: w').length + 1 := by
    rw [List.length_append]
    omega
  obtain ⟨v, hv, hfields⟩ :=
    Layout.readFields_of_gives (depthLimit - 1) hmembers hgives hsteps hassign w'
  have hclose : closeObject (v ++ closeBrace :: w') = .ok w' := by
    rw [closeObject, skipSpace_append hv, skipSpace_cons (by decide)]
    rfl
  have hend : readEnd w' = .ok () := by
    have hskip := skipSpace_append hw' []
    rw [List.append_nil] at hskip
    rw [readEnd, hskip]
    rfl
  refine readAll_eq_ok_iff.2 ⟨w', ?_, hend⟩
  rw [Layout.readRecord, skipSpace_append hw, skipSpace_cons (by decide)]
  simp only [if_true]
  rw [if_neg (by decide), hfields, ok_bind]
  simp only [hbuild, hclose, ok_bind]

/-- Members of fields and members of no field, in any order, give the former. -/
theorem Layout.Carries.exists_gives (h : l.Carries members input)
    (hknown : ∀ m ∈ members, (l.field? m.1).isSome) :
    ∃ texts values further, ObjectText texts input ∧ List.Forall₂ l.Gives texts values ∧
      (members ++ further).Perm values ∧ ∀ m ∈ further, l.field? m.1 = none := by
  obtain ⟨texts, own, further, hobject, hperm, hown, hfurther⟩ := h
  have hfields : List.Forall₂ l.Gives own members := by
    clear hperm
    induction hown with
    | nil => exact .nil
    | @cons m t members own hmember _ ih =>
      obtain ⟨name, t⟩ := t
      obtain ⟨rfl, hspells⟩ := hmember
      rw [List.forall_mem_cons] at hknown
      exact .cons (.field hknown.1 hspells) (ih hknown.2)
  have hothers : List.Forall₂ l.Gives further (further.map fun t => (t.1, .null)) := by
    rw [List.forall₂_map_right_iff, List.forall₂_same]
    intro t ht
    exact .other (hfurther t ht).1 (hfurther t ht).2
  obtain ⟨values, hvalues, hperm⟩ :=
    List.perm_comp_forall₂ hperm (List.rel_append hfields hothers)
  refine ⟨texts, values, _, hobject, hvalues, hperm.symm, ?_⟩
  intro m hm
  obtain ⟨t, ht, rfl⟩ := List.mem_map.1 hm
  exact (hfurther t ht).1

/-- All texts that carry the members of a record give the record. -/
theorem Layout.read_of_carries (hbuild : BuiltByValues build)
    (hknown : ∀ m ∈ members, (l.field? m.1).isSome)
    (hrecord : l.ofJson build (.object members) = .ok record) (h : l.Carries members input) :
    l.read build input = .ok record := by
  obtain ⟨texts, values, further, hobject, hgives, hperm, hfurther⟩ := h.exists_gives hknown
  refine Layout.read_of_gives hobject hgives ?_
  refine Layout.ofJson_object_of_perm hbuild hperm ?_
  rw [Layout.ofJson_object_append hfurther, hrecord]

end Record

/-! ## The written text -/

/-- How a member is written. -/
def writtenMember (m : String × Json) : String × Bytes := (m.1, encodeChars m.2.chars)

theorem membersText_leftChars (isFirst : Bool) (members : List (String × Json)) :
    MembersText isFirst (members.map writtenMember) (encodeChars (leftChars isFirst members)) := by
  induction members generalizing isFirst with
  | nil =>
    rw [leftChars_nil]
    exact .close isBlank_nil
  | cons m members ih =>
    have hname := spells_escapedChars m.1.toList
    have hmore : MembersText false (members.map writtenMember)
      (encodeChars (moreChars members)) := ih false
    cases isFirst with
    | true =>
      have h := MembersText.member (v := encodeChars m.2.chars) (.first isBlank_nil) hname
        isBlank_nil isBlank_nil hmore
      have hchars := encodeChars_membersChars_cons m members []
      simp only [List.append_nil, encodeChars_stringChars] at hchars
      rw [leftChars, hchars]
      exact h
    | false =>
      have h := MembersText.member (v := encodeChars m.2.chars) (.later isBlank_nil isBlank_nil)
        hname isBlank_nil isBlank_nil hmore
      have hchars := encodeChars_moreChars_cons m members []
      simp only [List.append_nil, encodeChars_stringChars] at hchars
      rw [leftChars, hchars]
      exact h

theorem objectText_text (members : List (String × Json)) :
    ObjectText (members.map writtenMember) (encode (Json.object members).text) := by
  rw [encode_object_text]
  exact .mk isBlank_nil (membersText_leftChars true members) isBlank_nil

/-- The written text of an object carries its members, in their order and without others. -/
theorem Layout.carries_text (l : Layout) (hflat : ∀ m ∈ members, m.2.isFlat = true) :
    l.Carries members (encode (Json.object members).text) := by
  refine ⟨_, members.map writtenMember, [], objectText_text members, ?_, ?_, by simp⟩
  · rw [List.append_nil]
  · rw [List.forall₂_map_right_iff, List.forall₂_same]
    intro m hm
    exact ⟨rfl, spells_chars (hflat m hm)⟩

end AccessDecision.Json
