import AccessDecision.Json.Record
import AccessDecision.Proofs.Json.Members

set_option autoImplicit false

/-! # Reading records off values

`Field.given` collects what an object gives for a field, under any of its names. A record is read
off an object that gives each field once at most and with a value of its kind
(`Layout.Unambiguous.ofJson_object_eq_ok_iff`), whatever other members there are
(`Layout.ofJson_object_congr`) and in whatever order (`Layout.ofJson_object_of_perm`), and off a
list that holds values of the fields' kinds in the fields' order and lacks only fields that may be
missing (`Layout.ofJson_array_eq_ok_iff`). -/

namespace AccessDecision.Json

open Outcome

variable {name other : String} {v : Json} {members : List (String × Json)}

/-! ## Fields of a kind -/

/-- Only a string and `null` are read as a text that may be missing. -/
theorem asOptionalString_eq_ok_iff {s : Option String} :
    asOptionalString v = .ok s ↔ v = (s.map Json.string).getD .null := by
  cases s <;> cases v <;> simp [asOptionalString, asString, Except.map]

/-- A text that may be missing: it is absent, `null` or a string. -/
inductive NullableText : Option Json → Option String → Prop
  | absent : NullableText none none
  | null : NullableText (some .null) none
  | text (s : String) : NullableText (some (.string s)) (some s)

theorem nullableText_iff {given : Option Json} {text : Option String} :
    NullableText given text ↔ asOptionalString (given.getD .null) = .ok text := by
  rw [asOptionalString_eq_ok_iff]
  constructor
  · rintro (_ | _ | _) <;> rfl
  · intro h
    cases given with
    | none =>
      cases text with
      | none => exact .absent
      | some s => exact absurd h (by simp)
    | some v =>
      obtain rfl : v = (text.map Json.string).getD .null := h
      cases text with
      | none => exact .null
      | some s => exact .text s

theorem NullableText.unique {given : Option Json} {text other : Option String}
    (h : NullableText given text) (h' : NullableText given other) : text = other := by
  rw [nullableText_iff] at h h'
  exact Except.ok.inj (h.symm.trans h')

theorem asString_eq_ok_iff {s : String} : asString v = .ok s ↔ v = .string s := by
  cases v <;> simp [asString]

theorem Assignment.string_eq_ok_iff {a : Assignment} {s : String} :
    a.string name = .ok s ↔ a.value? name = some (.string s) := by
  unfold Assignment.string Assignment.required
  cases a.value? name with
  | none => simp
  | some v => simp [asString_eq_ok_iff]

/-! ## What is given for a field -/

/-- The values of the members that go by a name of a field. -/
def Field.given (f : Field) (members : List (String × Json)) : List Json :=
  (members.filter fun m => f.goesBy m.1).map Prod.snd

/-- No name belongs to two fields. -/
def Layout.Unambiguous (l : Layout) : Prop :=
  ∀ f ∈ l.fields, ∀ name ∈ f.name :: f.aliases, l.field? name = some f

/-- The members of fields, under the fields' own names. -/
def Layout.named (l : Layout) (members : List (String × Json)) : Assignment :=
  members.filterMap fun m => (l.field? m.1).map fun f => (f.name, m.2)

variable {l : Layout} {a a' : Assignment}

theorem Layout.named_cons_of_none (h : l.field? name = none) :
    l.named ((name, v) :: members) = l.named members := by
  simp [Layout.named, h]

theorem Layout.named_cons_of_some {f : Field} (h : l.field? name = some f) :
    l.named ((name, v) :: members) = (f.name, v) :: l.named members := by
  simp [Layout.named, h]

theorem Layout.named_append {added : List (String × Json)} :
    l.named (members ++ added) = l.named members ++ l.named added :=
  List.filterMap_append

theorem Layout.named_toList {f : Field} (h : l.field? name = some f) (given : Option Json) :
    l.named (given.toList.map fun v => (name, v)) = given.toList.map fun v => (f.name, v) := by
  cases given with
  | none => rfl
  | some v => exact named_cons_of_some h

/-- Every member of a field has its kind, and no field is assigned twice. -/
theorem Layout.assign_eq_ok_iff :
    l.assign a members = .ok a' ↔
      a' = (l.named members).reverse ++ a ∧
        (∀ m ∈ members, ∀ f, l.field? m.1 = some f → f.kind.check m.2 = .ok ()) ∧
        ((l.named members).map Prod.fst).Nodup ∧
        ∀ m ∈ l.named members, lookup m.1 a = none := by
  induction members generalizing a with
  | nil => simp [Layout.assign, Layout.named, eq_comm]
  | cons m members ih =>
    obtain ⟨n, w⟩ := m
    rw [Layout.assign]
    cases hfield : l.field? n with
    | none =>
      simp only [ih, named_cons_of_none hfield, List.forall_mem_cons, hfield, reduceCtorEq,
        false_implies, implies_true, true_and]
    | some f =>
      have hlookup (m : String × Json) :
          lookup m.1 ((f.name, w) :: a) = none ↔ f.name ≠ m.1 ∧ lookup m.1 a = none := by
        by_cases hm : f.name = m.1
        · simp [lookup, hm]
        · simp [lookup, hm]
      simp only [Assignment.value?, named_cons_of_some hfield, List.forall_mem_cons, hfield,
        Option.some.injEq, List.map_cons, List.nodup_cons, List.reverse_cons, List.append_assoc,
        List.singleton_append, forall_eq']
      by_cases hfresh : lookup f.name a = none
      · simp only [hfresh, Option.isSome_none, Bool.false_eq_true, if_false, bind_eq_ok_iff, ih,
          hlookup, List.mem_map, not_exists, not_and, ne_eq, true_and]
        constructor
        · rintro ⟨⟨⟩, hcheck, ha, hchecks, hnodup, hnew⟩
          exact ⟨ha, ⟨hcheck, hchecks⟩, ⟨fun m hm h => (hnew m hm).1 h.symm, hnodup⟩,
            fun m hm => (hnew m hm).2⟩
        · rintro ⟨ha, ⟨hcheck, hchecks⟩, ⟨hhead, hnodup⟩, hnew⟩
          exact ⟨(), hcheck, ha, hchecks, hnodup,
            fun m hm => ⟨fun h => hhead m hm h.symm, hnew m hm⟩⟩
      · simp [hfresh, Option.isSome_iff_ne_none]

namespace Layout.Unambiguous

variable {f : Field} (hl : l.Unambiguous)

include hl

/-- Among the fields of a layout, a name tells the field. -/
theorem field?_eq_some_iff (hf : f ∈ l.fields) :
    l.field? name = some f ↔ f.goesBy name = true := by
  constructor
  · intro h
    have hgoes := List.find?_some h
    exact hgoes
  · intro hgoes
    refine hl f hf name ?_
    rw [Field.goesBy, Bool.or_eq_true, decide_eq_true_eq, List.contains_iff_mem] at hgoes
    rcases hgoes with rfl | hother
    · exact List.mem_cons_self ..
    · exact List.mem_cons_of_mem _ hother

theorem name_injective {g : Field} (hf : f ∈ l.fields) (hg : g ∈ l.fields)
    (h : f.name = g.name) : f = g := by
  have hfield := hl f hf f.name (List.mem_cons_self ..)
  rw [h, hl g hg g.name (List.mem_cons_self ..)] at hfield
  exact (Option.some.inj hfield).symm

theorem given_eq (hf : f ∈ l.fields) :
    f.given members = ((l.named members).filter fun m => m.1 = f.name).map Prod.snd := by
  induction members with
  | nil => rfl
  | cons m members ih =>
    obtain ⟨n, w⟩ := m
    cases hfield : l.field? n with
    | none =>
      have hother : f.goesBy n = false := by
        rw [← Bool.not_eq_true, ← hl.field?_eq_some_iff hf, hfield]
        simp
      rw [named_cons_of_none hfield, ← ih]
      simp [Field.given, hother]
    | some g =>
      rw [named_cons_of_some hfield]
      by_cases hname : g.name = f.name
      · obtain rfl := hl.name_injective (List.mem_of_find?_eq_some hfield) hf hname
        simp only [Field.given, List.filter_cons, (hl.field?_eq_some_iff hf).1 hfield, if_true,
          List.map_cons, decide_true]
        exact congrArg _ ih
      · have hother : f.goesBy n = false := by
          rw [← Bool.not_eq_true, ← hl.field?_eq_some_iff hf, hfield, Option.some.injEq]
          exact fun h => hname (h ▸ rfl)
        simp only [Field.given, List.filter_cons, hother, hname, decide_false, Bool.false_eq_true,
          if_false]
        exact ih

end Layout.Unambiguous

namespace Layout.Unambiguous

variable {f : Field} (hl : l.Unambiguous)

include hl

/-- No field is named twice if each is given once at most. -/
theorem nodup_named_iff :
    ((l.named members).map Prod.fst).Nodup ↔ ∀ f ∈ l.fields, (f.given members).length ≤ 1 := by
  have hcount {f : Field} (hf : f ∈ l.fields) :
      ((l.named members).map Prod.fst).count f.name = (f.given members).length := by
    rw [count_eq_length, hl.given_eq hf, List.length_map]
  rw [List.nodup_iff_count_le_one]
  constructor
  · intro h f hf
    rw [← hcount hf]
    exact h f.name
  · intro h name
    by_cases hname : name ∈ (l.named members).map Prod.fst
    · -- only names of fields occur
      obtain ⟨m, hm, rfl⟩ := List.mem_map.1 hname
      obtain ⟨given, -, hgiven⟩ := List.mem_filterMap.1 hm
      obtain ⟨f, hfield, rfl⟩ := Option.map_eq_some_iff.1 hgiven
      have hf : f ∈ l.fields := List.mem_of_find?_eq_some hfield
      rw [hcount hf]
      exact h f hf
    · rw [List.count_eq_zero.2 hname]
      exact Nat.zero_le 1

/-- Each field is assigned what is given for it, if that is one value at most. -/
theorem value?_named (hone : ∀ f ∈ l.fields, (f.given members).length ≤ 1) (hf : f ∈ l.fields) :
    Assignment.value? (l.named members).reverse f.name = (f.given members).head? := by
  rw [Assignment.value?, lookup_reverse (hl.nodup_named_iff.2 hone), lookup_eq_head?,
    hl.given_eq hf]

/-- A record is read off an object that gives each field once at most and with a value of its
    kind. -/
theorem ofJson_object_eq_ok_iff {α : Type} {build : Assignment → Except Cause α} {record : α} :
    l.ofJson build (.object members) = .ok record ↔
      (∀ f ∈ l.fields, (f.given members).length ≤ 1 ∧
        ∀ v ∈ f.given members, f.kind.check v = .ok ()) ∧
      build (l.named members).reverse = .ok record := by
  simp only [Layout.ofJson, Layout.assignment, bind_eq_ok_iff, assign_eq_ok_iff, List.append_nil,
    hl.nodup_named_iff]
  constructor
  · rintro ⟨a, ⟨rfl, hchecks, hone, -⟩, hbuild⟩
    refine ⟨?_, hbuild⟩
    intro f hf
    refine ⟨hone f hf, ?_⟩
    intro v hv
    obtain ⟨m, hm, rfl⟩ := List.mem_map.1 hv
    obtain ⟨hm, hgoes⟩ := List.mem_filter.1 hm
    exact hchecks m hm f ((hl.field?_eq_some_iff hf).2 hgoes)
  · rintro ⟨hfields, hbuild⟩
    refine ⟨_, ⟨rfl, ?_, fun f hf => (hfields f hf).1, fun m _ => rfl⟩, hbuild⟩
    intro m hm f hfield
    have hf : f ∈ l.fields := List.mem_of_find?_eq_some hfield
    have hgoes := (hl.field?_eq_some_iff hf).1 hfield
    exact (hfields f hf).2 m.2 (List.mem_map.2 ⟨m, List.mem_filter.2 ⟨hm, hgoes⟩, rfl⟩)

end Layout.Unambiguous

/-! ### Members of no field -/

/-- Whether a member is one of a field. -/
def Layout.knows (l : Layout) (m : String × Json) : Bool := (l.field? m.1).isSome

/-- Members of no field are passed over. -/
theorem Layout.assign_filter_knows (a : Assignment) :
    l.assign a (members.filter l.knows) = l.assign a members := by
  induction members generalizing a with
  | nil => rfl
  | cons m members ih =>
    obtain ⟨name, v⟩ := m
    cases hfield : l.field? name with
    | none =>
      rw [List.filter_cons_of_neg (by simp [knows, hfield]), ih, assign, hfield]
    | some f =>
      rw [List.filter_cons_of_pos (by simp [knows, hfield]), assign, assign, hfield]
      simp only [ih]

theorem Layout.lookup_filter_knows {name : String} :
    lookup name (members.filter l.knows) =
      if (l.field? name).isSome then lookup name members else none := by
  induction members with
  | nil => simp [lookup]
  | cons m members ih =>
    obtain ⟨n, v⟩ := m
    by_cases hname : n = name
    · subst hname
      cases hknown : (l.field? n).isSome with
      | true =>
        rw [List.filter_cons_of_pos (by simpa [knows] using hknown)]
        simp [lookup]
      | false =>
        rw [List.filter_cons_of_neg (by simp [knows, hknown]), ih, hknown]
        simp
    · cases hknown : l.knows (n, v) with
      | true =>
        rw [List.filter_cons_of_pos hknown]
        simp [lookup, hname, ih]
      | false =>
        rw [List.filter_cons_of_neg (by simp [hknown])]
        simp [lookup, hname, ih]

/-- Two objects whose members of fields are the same give the same record or fail alike. -/
theorem Layout.ofJson_object_congr {α : Type} {build : Assignment → Except Cause α}
    {others : List (String × Json)} (hmembers : Sorted members) (hothers : Sorted others)
    (h : ∀ name, (l.field? name).isSome → lookup name others = lookup name members) :
    l.ofJson build (.object others) = l.ofJson build (.object members) := by
  have hsame : others.filter l.knows = members.filter l.knows := by
    refine eq_of_lookup_eq (hothers.filter _) (hmembers.filter _) ?_
    intro name
    rw [lookup_filter_knows, lookup_filter_knows]
    split
    · exact h name ‹_›
    · rfl
  rw [ofJson, ofJson, assignment, assignment, ← assign_filter_knows, hsame, assign_filter_knows]

/-- Members in order are, as far as they are known, those that look-ups of the known names find. -/
theorem Layout.filter_knows_eq_pick {names : List String} (hnames : names.Pairwise (· < ·))
    (hknown : ∀ name, (l.field? name).isSome ↔ name ∈ names) (hmembers : Sorted members) :
    members.filter l.knows = pick names members := by
  refine eq_of_lookup_eq (hmembers.filter _) (sorted_pick hnames) ?_
  intro name
  rw [lookup_filter_knows, lookup_pick]
  simp only [hknown]

/-- It does not matter by which of its names a field goes. -/
theorem Layout.Unambiguous.assign_named (hl : l.Unambiguous) (a : Assignment) :
    l.assign a (l.named members) = l.assign a members := by
  induction members generalizing a with
  | nil => rfl
  | cons m members ih =>
    obtain ⟨name, v⟩ := m
    cases hfield : l.field? name with
    | none => rw [named_cons_of_none hfield, ih, assign, hfield]
    | some f =>
      have hown : l.field? f.name = some f :=
        hl f (List.mem_of_find?_eq_some hfield) f.name (List.mem_cons_self ..)
      rw [named_cons_of_some hfield, assign, assign, hfield, hown]
      simp only [ih]

/-- Nor do they matter behind the members of fields. -/
theorem Layout.ofJson_object_append {α : Type} {build : Assignment → Except Cause α}
    {further : List (String × Json)} (h : ∀ m ∈ further, l.field? m.1 = none) :
    l.ofJson build (.object (members ++ further)) = l.ofJson build (.object members) := by
  have hfurther : further.filter l.knows = [] := by
    rw [List.filter_eq_nil_iff]
    intro m hm
    simp [knows, h m hm]
  rw [ofJson, ofJson, assignment, assignment, ← assign_filter_knows, List.filter_append, hfurther,
    List.append_nil, assign_filter_knows]

/-! ### Members in another order -/

/-- The fields get the same values from the members in another order. -/
theorem Layout.assign_of_perm {others : List (String × Json)} (h : members.Perm others)
    (hassign : l.assign [] members = .ok a) :
    ∃ a', l.assign [] others = .ok a' ∧ ∀ name, a'.value? name = a.value? name := by
  obtain ⟨rfl, hchecks, hnodup, -⟩ := assign_eq_ok_iff.1 hassign
  have hnamed : (l.named members).Perm (l.named others) := h.filterMap _
  have hnodup' := (hnamed.map Prod.fst).nodup_iff.1 hnodup
  refine ⟨_, assign_eq_ok_iff.2 ⟨rfl, fun m hm => hchecks m (h.mem_iff.2 hm), hnodup',
    fun m _ => rfl⟩, ?_⟩
  intro name
  rw [List.append_nil, List.append_nil, Assignment.value?, Assignment.value?,
    lookup_reverse hnodup', lookup_reverse hnodup, lookup_eq_of_perm hnodup hnamed]

/-- A record is built by values if nothing else of an assignment matters to it. -/
def BuiltByValues {α : Type} (build : Assignment → Except Cause α) : Prop :=
  ∀ a a' : Assignment, (∀ name, a'.value? name = a.value? name) → build a' = build a

theorem Layout.ofJson_object_of_perm {α : Type} {build : Assignment → Except Cause α} {record : α}
    {others : List (String × Json)} (hbuild : BuiltByValues build) (h : members.Perm others)
    (hrecord : l.ofJson build (.object members) = .ok record) :
    l.ofJson build (.object others) = .ok record := by
  obtain ⟨a, hassign, hrecord⟩ := bind_eq_ok_iff.1 hrecord
  obtain ⟨a', hassign', hvalues⟩ := assign_of_perm h hassign
  exact bind_eq_ok_iff.2 ⟨a', hassign', (hbuild a a' hvalues).trans hrecord⟩

/-! ### Fields of one or two names -/

theorem eq_toList_head? {vs : List Json} (h : vs.length ≤ 1) : vs = vs.head?.toList := by
  match vs, h with
  | [], _ => rfl
  | [_], _ => rfl

/-- What is given first for a field without another name is what a look-up finds. -/
theorem Field.head?_given {f : Field} (hf : f.aliases = []) :
    (f.given members).head? = lookup f.name members := by
  simp only [lookup_eq_head?, Field.given, Field.goesBy, hf, List.contains_nil, Bool.or_false,
    eq_comm]

/-- A field without another name is given by its own name. -/
theorem Field.given_eq_toList {f : Field} (hf : f.aliases = [])
    (hmembers : (members.map Prod.fst).Nodup) :
    f.given members = (lookup f.name members).toList := by
  rw [← filter_eq_toList hmembers, Field.given]
  simp only [Field.goesBy, hf, List.contains_nil, Bool.or_false, eq_comm]

section Alias

variable {f : Field} (hf : f.aliases = [other]) (hne : f.name ≠ other)
  (hmembers : (members.map Prod.fst).Nodup)

include hf hne hmembers

/-- A field with one other name is given by either. -/
theorem Field.given_perm :
    (f.given members).Perm ((lookup f.name members).toList ++ (lookup other members).toList) := by
  have hsplit := List.filter_append_perm (fun m => decide (m.1 = f.name))
    (members.filter fun m => f.goesBy m.1)
  have hown : (members.filter fun m => f.goesBy m.1).filter (fun m => decide (m.1 = f.name)) =
      members.filter fun m => m.1 = f.name := by
    rw [List.filter_filter]
    refine List.filter_congr fun m _ => ?_
    by_cases hm : m.1 = f.name <;> simp [Field.goesBy, hm]
  have hother : (members.filter fun m => f.goesBy m.1).filter (fun m => !decide (m.1 = f.name)) =
      members.filter fun m => m.1 = other := by
    rw [List.filter_filter]
    refine List.filter_congr fun m _ => ?_
    by_cases hm : m.1 = f.name
    · simp [Field.goesBy, hf, hm, hne]
    · simp [Field.goesBy, hf, hm, Ne.symm hm]
  rw [hown, hother] at hsplit
  have hvalues := (hsplit.map Prod.snd).symm
  rwa [List.map_append, filter_eq_toList hmembers, filter_eq_toList hmembers] at hvalues

/-- It is given once at most if one of its names is not used, and by the other one then. -/
theorem Field.given_once_iff {x : Option Json} :
    f.given members = x.toList ↔
      lookup other members = none ∧ lookup f.name members = x ∨
        lookup f.name members = none ∧ lookup other members = x := by
  have hperm := Field.given_perm hf hne hmembers
  cases hown : lookup f.name members with
  | none =>
    have hgiven : f.given members = (lookup other members).toList := by
      rw [hown] at hperm
      cases hother : lookup other members with
      | none => simpa [hother] using hperm
      | some v => simpa [hother] using hperm
    rw [hgiven]
    cases lookup other members <;> cases x <;> simp
  | some v =>
    cases hother : lookup other members with
    | none =>
      rw [hown, hother] at hperm
      have hgiven : f.given members = [v] := by simpa using hperm
      cases x <;> simp [hgiven]
    | some w =>
      -- two values are more than one
      have hlength : (f.given members).length = 2 := by
        rw [hperm.length_eq, hown, hother]
        rfl
      constructor
      · intro h
        rw [h] at hlength
        cases x <;> simp at hlength
      · simp

end Alias

/-! ## Lists -/

/-- Fields take the items of a list in turn; those without an item must be allowed to be missing. -/
theorem Layout.zipFields_eq_ok_iff {index : Nat} {fields : List Field} {items rest : List Json} :
    l.zipFields index fields items = .ok (a, rest) ↔
      (∀ f ∈ fields.drop items.length, f.required = false) ∧
        (∀ p ∈ fields.zip items, p.1.kind.check p.2 = .ok ()) ∧
        a = (fields.zip items).map (fun p => (p.1.name, p.2)) ∧ rest = items.drop fields.length := by
  induction fields generalizing index items a with
  | nil =>
    constructor
    · rintro ⟨⟩
      simp
    · rintro ⟨-, -, rfl, rfl⟩
      rfl
  | cons f fields ih =>
    cases items with
    | nil =>
      rw [zipFields]
      cases hrequired : f.required with
      | true => simp [hrequired]
      | false => simp [hrequired, ih]
    | cons v items =>
      simp only [zipFields, bind_eq_ok_iff, List.length_cons, List.drop_succ_cons,
        List.zip_cons_cons, List.forall_mem_cons, List.map_cons]
      constructor
      · rintro ⟨⟨⟩, hcheck, ⟨b, rest'⟩, hzip, hok⟩
        simp only [Except.ok.injEq, Prod.mk.injEq] at hok
        obtain ⟨rfl, rfl⟩ := hok
        obtain ⟨hmissing, hchecks, rfl, rfl⟩ := ih.1 hzip
        exact ⟨hmissing, ⟨hcheck, hchecks⟩, rfl, rfl⟩
      · rintro ⟨hmissing, ⟨hcheck, hchecks⟩, rfl, rfl⟩
        exact ⟨(), hcheck, _, ih.2 ⟨hmissing, hchecks, rfl, rfl⟩, rfl⟩

theorem Layout.ofJson_array_eq_ok_iff {α : Type} {build : Assignment → Except Cause α} {record : α}
    {items : List Json} :
    l.ofJson build (.array items) = .ok record ↔
      items.length ≤ l.fields.length ∧ (∀ f ∈ l.fields.drop items.length, f.required = false) ∧
        (∀ p ∈ l.fields.zip items, p.1.kind.check p.2 = .ok ()) ∧
        build ((l.fields.zip items).map fun p => (p.1.name, p.2)) = .ok record := by
  simp only [Layout.ofJson, Layout.assignment, bind_eq_ok_iff]
  constructor
  · rintro ⟨a, ⟨⟨b, rest⟩, hzip, hrest⟩, hbuild⟩
    obtain ⟨hmissing, hchecks, rfl, rfl⟩ := zipFields_eq_ok_iff.1 hzip
    split at hrest
    · rename_i hempty
      simp only [Except.ok.injEq] at hrest
      rw [List.isEmpty_iff, List.drop_eq_nil_iff] at hempty
      exact ⟨hempty, hmissing, hchecks, hrest ▸ hbuild⟩
    · exact absurd hrest (by simp)
  · rintro ⟨hlength, hmissing, hchecks, hbuild⟩
    refine ⟨_, ⟨_, zipFields_eq_ok_iff.2 ⟨hmissing, hchecks, rfl, rfl⟩, ?_⟩, hbuild⟩
    rw [List.drop_eq_nil_iff.2 hlength]
    rfl

end AccessDecision.Json
