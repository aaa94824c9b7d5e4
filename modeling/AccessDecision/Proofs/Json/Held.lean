import AccessDecision.Json.Record
import AccessDecision.Proofs.Outcome

set_option autoImplicit false

/-! # What a text holds for a record

The reader of records takes a text apart and checks what it finds in one pass. `Layout.Holds` says
what there is to be found and checks nothing: the items of a list, or the members of an object under
the names of fields, each as the reader of values reads it, where members of no field are passed
over. A text holds one value at most (`Layout.Holds.unique`), and a record that is read off the text
is read off that value (`Layout.exists_holds_of_readRecord`). -/

namespace AccessDecision.Json

open Outcome

/-! ## Lists and objects in a text -/

/-- The items of a list that are left, and the text from its closing bracket on. -/
inductive HoldsItems (depth : Nat) : Bool → Bytes → List Json → Bytes → Prop
  | nil {isFirst s} : nextElement isFirst s = .ok none → HoldsItems depth isFirst s [] s
  | cons {isFirst s t v r items rest} : nextElement isFirst s = .ok (some t) →
      readValue (2 * t.length + 2) depth t = .ok (v, r) → HoldsItems depth false r items rest →
      HoldsItems depth isFirst s (v :: items) rest

/-- The members of an object that are left and belong to a field, and the text from its closing
    brace on. -/
inductive Layout.HoldsMembers (l : Layout) (depth : Nat) :
    Bool → Bytes → List (String × Json) → Bytes → Prop
  | nil {isFirst s} : nextName isFirst s = .ok none → l.HoldsMembers depth isFirst s [] s
  | known {isFirst s name t t' v r members rest} : nextName isFirst s = .ok (some (name, t)) →
      (l.field? name).isSome = true → readColon t = .ok t' →
      readValue (2 * t'.length + 2) depth t' = .ok (v, r) →
      l.HoldsMembers depth false r members rest →
      l.HoldsMembers depth isFirst s ((name, v) :: members) rest
  | other {isFirst s name t t' r members rest} : nextName isFirst s = .ok (some (name, t)) →
      (l.field? name).isSome = false → readColon t = .ok t' → skipValue t' = .ok r →
      l.HoldsMembers depth false r members rest → l.HoldsMembers depth isFirst s members rest

/-- A text that holds a list or an object and nothing else. -/
inductive Layout.Holds (l : Layout) (input : Bytes) : Json → Prop
  | array {s items rest r} : skipSpace input = openBracket :: s →
      HoldsItems (depthLimit - 1) true s items rest → closeList rest = .ok r →
      readEnd r = .ok () → l.Holds input (.array items)
  | object {s members rest r} : skipSpace input = openBrace :: s →
      l.HoldsMembers (depthLimit - 1) true s members rest → closeObject rest = .ok r →
      readEnd r = .ok () → l.Holds input (.object members)

/-! ## A text holds one value -/

variable {l : Layout} {depth steps index : Nat} {isFirst : Bool} {input s r rest rest' : Bytes}
  {v w : Json} {items items' : List Json} {members members' : List (String × Json)}

theorem HoldsItems.eq_nil (h : HoldsItems depth isFirst s items rest)
    (hnone : nextElement isFirst s = .ok none) : items = [] := by
  cases h with
  | nil => rfl
  | cons hnext => exact absurd (hnone.symm.trans hnext) (by simp)

theorem HoldsItems.unique (h : HoldsItems depth isFirst s items rest)
    (h' : HoldsItems depth isFirst s items' rest') : items = items' := by
  induction h generalizing items' rest' with
  | nil hnone => exact (h'.eq_nil hnone).symm
  | cons hnext hvalue _ ih =>
    cases h' with
    | nil hnone => exact absurd (hnone.symm.trans hnext) (by simp)
    | cons hnext' hvalue' hrest' =>
      obtain rfl := Option.some.inj (Except.ok.inj (hnext.symm.trans hnext'))
      obtain ⟨rfl, rfl⟩ := Prod.mk.inj (Except.ok.inj (hvalue.symm.trans hvalue'))
      rw [ih hrest']

theorem nextName_inj {name name' : String} {t t' : Bytes}
    (h : nextName isFirst s = .ok (some (name, t)))
    (h' : nextName isFirst s = .ok (some (name', t'))) : name = name' ∧ t = t' :=
  Prod.mk.inj (Option.some.inj (Except.ok.inj (h.symm.trans h')))

theorem Layout.HoldsMembers.unique (h : l.HoldsMembers depth isFirst s members rest)
    (h' : l.HoldsMembers depth isFirst s members' rest') : members = members' := by
  induction h generalizing members' rest' with
  | nil hnone =>
    cases h' with
    | nil => rfl
    | known hnext | other hnext => exact absurd (hnone.symm.trans hnext) (by simp)
  | known hnext hknown hcolon hvalue _ ih =>
    cases h' with
    | nil hnone => exact absurd (hnone.symm.trans hnext) (by simp)
    | known hnext' _ hcolon' hvalue' hrest' =>
      obtain ⟨rfl, rfl⟩ := nextName_inj hnext hnext'
      obtain rfl := Except.ok.inj (hcolon.symm.trans hcolon')
      obtain ⟨rfl, rfl⟩ := Prod.mk.inj (Except.ok.inj (hvalue.symm.trans hvalue'))
      rw [ih hrest']
    | other hnext' hother =>
      obtain ⟨rfl, rfl⟩ := nextName_inj hnext hnext'
      exact absurd (hknown.symm.trans hother) (by simp)
  | other hnext hother hcolon hskip _ ih =>
    cases h' with
    | nil hnone => exact absurd (hnone.symm.trans hnext) (by simp)
    | known hnext' hknown =>
      obtain ⟨rfl, rfl⟩ := nextName_inj hnext hnext'
      exact absurd (hknown.symm.trans hother) (by simp)
    | other hnext' _ hcolon' hskip' hrest' =>
      obtain ⟨rfl, rfl⟩ := nextName_inj hnext hnext'
      obtain rfl := Except.ok.inj (hcolon.symm.trans hcolon')
      obtain rfl := Except.ok.inj (hskip.symm.trans hskip')
      exact ih hrest'

theorem Layout.Holds.unique (h : l.Holds input v) (h' : l.Holds input w) :
    v = w := by
  cases h with
  | array hopen hitems =>
    cases h' with
    | array hopen' hitems' =>
      obtain ⟨-, rfl⟩ := List.cons.inj (hopen.symm.trans hopen')
      rw [hitems.unique hitems']
    | object hopen' => exact absurd (List.cons.inj (hopen.symm.trans hopen')).1 (by decide)
  | object hopen hmembers =>
    cases h' with
    | array hopen' => exact absurd (List.cons.inj (hopen.symm.trans hopen')).1 (by decide)
    | object hopen' hmembers' =>
      obtain ⟨-, rfl⟩ := List.cons.inj (hopen.symm.trans hopen')
      rw [hmembers.unique hmembers']

/-! ## Reading what is held -/

/-- A value of a kind is read as any value is, and is of that kind. -/
theorem readValue_of_readKind {kind : Kind} (h : readKind kind depth s = .ok (v, rest)) :
    readValue (2 * s.length + 2) depth s = .ok (v, rest) ∧ kind.check v = .ok () := by
  unfold readKind at h
  cases hexpected : kind.expectation with
  | none =>
    obtain rfl : kind = .anything := by
      cases kind with
      | anything => rfl
      | boolean | string | optionalString | int64 =>
        exact absurd hexpected (by simp [Kind.expectation])
    exact ⟨h, rfl⟩
  | some expected =>
    rw [hexpected] at h
    rw [readValue]
    split at h
    · rename_i heq
      exact absurd heq (by simp)
    rename_i heq
    cases hspace : skipSpace s with
    | nil =>
      rw [hspace] at h
      exact absurd h (by simp)
    | cons b r =>
      rw [hspace] at h
      simp only at h ⊢
      by_cases hbracket : b = openBracket
      · rw [if_pos hbracket] at h
        exact absurd h (by simp)
      by_cases hbrace : b = openBrace
      · rw [if_neg hbracket, if_pos hbrace] at h
        exact absurd h (by simp)
      simp only [hbracket, hbrace, if_false, bind_eq_ok_iff] at h ⊢
      obtain ⟨⟨w, r'⟩, hscalar, hkind⟩ := h
      split at hkind
      · rename_i hcheck
        obtain ⟨rfl, rfl⟩ := Prod.mk.inj (Except.ok.inj hkind)
        exact ⟨hscalar, hcheck⟩
      · exact absurd hkind (by simp)

theorem nextElement_of_closeList (h : closeList s = .ok r) : nextElement isFirst s = .ok none := by
  unfold closeList at h
  unfold nextElement
  cases hspace : skipSpace s with
  | nil =>
    rw [hspace] at h
    exact absurd h (by simp)
  | cons b t =>
    rw [hspace] at h
    by_cases hbracket : b = closeBracket
    · simp [hbracket]
    · simp only [hbracket, if_false] at h
      split at h <;> exact absurd h (by simp)

/-- The fields that are read off the elements of a list are read off its items. -/
theorem Layout.exists_items_of_readElements {fields : List Field} {a : Assignment}
    (h : l.readElements depth index isFirst fields s = .ok (a, rest))
    (hclose : closeList rest = .ok r) :
    ∃ items, HoldsItems depth isFirst s items rest ∧
      l.zipFields index fields items = .ok (a, []) := by
  induction fields generalizing index isFirst s a with
  | nil =>
    rw [readElements] at h
    obtain ⟨rfl, rfl⟩ := Prod.mk.inj (Except.ok.inj h)
    exact ⟨[], .nil (nextElement_of_closeList hclose), rfl⟩
  | cons f fields ih =>
    rw [readElements] at h
    obtain ⟨next, hnext, h⟩ := bind_eq_ok_iff.1 h
    cases next with
    | none =>
      cases hrequired : f.required with
      | true => simp [hrequired] at h
      | false =>
        simp only [hrequired, Bool.false_eq_true, if_false] at h
        obtain ⟨items, hitems, hzip⟩ := ih h
        obtain rfl := hitems.eq_nil hnext
        refine ⟨[], hitems, ?_⟩
        rw [zipFields, hrequired]
        exact hzip
    | some t =>
      obtain ⟨⟨v, t'⟩, hvalue, h⟩ := bind_eq_ok_iff.1 h
      obtain ⟨⟨b, rest'⟩, hfields, h⟩ := bind_eq_ok_iff.1 h
      obtain ⟨rfl, rfl⟩ := Prod.mk.inj (Except.ok.inj h)
      obtain ⟨items, hitems, hzip⟩ := ih hfields
      obtain ⟨hread, hcheck⟩ := readValue_of_readKind hvalue
      refine ⟨v :: items, .cons hnext hread hitems, ?_⟩
      rw [zipFields, hcheck, ok_bind, hzip]
      rfl

/-- The fields that are read off an object are read off its members. -/
theorem Layout.exists_members_of_readFields {a a' : Assignment}
    (h : l.readFields depth steps isFirst a s = .ok (a', rest)) :
    ∃ members, l.HoldsMembers depth isFirst s members rest ∧ l.assign a members = .ok a' := by
  induction steps generalizing isFirst a s with
  | zero => exact absurd h (by simp [readFields])
  | succ steps ih =>
    rw [readFields] at h
    obtain ⟨next, hnext, h⟩ := bind_eq_ok_iff.1 h
    cases next with
    | none =>
      obtain ⟨rfl, rfl⟩ := Prod.mk.inj (Except.ok.inj h)
      exact ⟨[], .nil hnext, rfl⟩
    | some next =>
      obtain ⟨name, t⟩ := next
      cases hfield : l.field? name with
      | none =>
        simp only [hfield] at h
        obtain ⟨t', hcolon, h⟩ := bind_eq_ok_iff.1 h
        obtain ⟨r, hskip, h⟩ := bind_eq_ok_iff.1 h
        obtain ⟨members, hmembers, hassign⟩ := ih h
        exact ⟨members, .other hnext (by rw [hfield]; rfl) hcolon hskip hmembers, hassign⟩
      | some f =>
        simp only [hfield] at h
        cases hfresh : (a.value? f.name).isSome with
        | true => simp [hfresh] at h
        | false =>
          simp only [hfresh, Bool.false_eq_true, if_false] at h
          obtain ⟨t', hcolon, h⟩ := bind_eq_ok_iff.1 h
          obtain ⟨⟨v, r⟩, hvalue, h⟩ := bind_eq_ok_iff.1 h
          obtain ⟨members, hmembers, hassign⟩ := ih h
          obtain ⟨hread, hcheck⟩ := readValue_of_readKind hvalue
          refine ⟨(name, v) :: members,
            .known hnext (by rw [hfield]; rfl) hcolon hread hmembers, ?_⟩
          rw [assign, hfield]
          simp only [hfresh, Bool.false_eq_true, if_false, hcheck, ok_bind]
          exact hassign

/-- A record that is read off a text is read off what the text holds. -/
theorem Layout.exists_holds_of_readRecord {α : Type} {build : Assignment → Except Cause α}
    {record : α} (h : l.readRecord build input = .ok (record, rest))
    (hend : readEnd rest = .ok ()) : ∃ v, l.Holds input v ∧ l.ofJson build v = .ok record := by
  unfold readRecord at h
  cases hspace : skipSpace input with
  | nil =>
    rw [hspace] at h
    exact absurd h (by simp)
  | cons b s =>
    simp only [hspace] at h
    split at h
    · rename_i hbracket
      obtain ⟨⟨a, t⟩, helements, h⟩ := bind_eq_ok_iff.1 h
      cases hbuild : build a with
      | error cause => simp [hbuild] at h
      | ok built =>
        simp only [hbuild] at h
        obtain ⟨r, hclose, h⟩ := bind_eq_ok_iff.1 h
        obtain ⟨rfl, rfl⟩ := Prod.mk.inj (Except.ok.inj h)
        obtain ⟨items, hitems, hzip⟩ := exists_items_of_readElements helements hclose
        refine ⟨.array items, .array (hbracket ▸ hspace) hitems hclose hend, ?_⟩
        rw [ofJson, assignment, hzip]
        exact hbuild
    split at h
    · rename_i hbrace
      obtain ⟨⟨a, t⟩, hfields, h⟩ := bind_eq_ok_iff.1 h
      cases hbuild : build a with
      | error cause => simp [hbuild] at h
      | ok built =>
        simp only [hbuild] at h
        obtain ⟨r, hclose, h⟩ := bind_eq_ok_iff.1 h
        obtain ⟨rfl, rfl⟩ := Prod.mk.inj (Except.ok.inj h)
        obtain ⟨members, hmembers, hassign⟩ := exists_members_of_readFields hfields
        refine ⟨.object members, .object (hbrace ▸ hspace) hmembers hclose hend, ?_⟩
        rw [ofJson, assignment, hassign]
        exact hbuild
    · obtain ⟨⟨w, r⟩, -, h⟩ := bind_eq_ok_iff.1 h
      exact absurd h (by simp)

end AccessDecision.Json
