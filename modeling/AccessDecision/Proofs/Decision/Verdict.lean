import AccessDecision.Decision
import AccessDecision.Proofs.Json.Layout

set_option autoImplicit false

/-! # Which answers are decisions

`Verdict` states what an object must say to be a decision, and `Listed` what a list must hold: one
that has the fields in their order passes for the object. `Decision.read_exact` says that these are
all the answers that are ever taken for a decision. So an object gives access only by a verdict of
its own, but a list does so without a single named field (`Decision.read_list_of_true`). -/

namespace AccessDecision

open Json Outcome

/-! ## Texts that may be missing -/

/-- The text of a field that may be missing: one that is absent, `null` or empty is none. -/
inductive Json.OptionalText : Option Json → Option String → Prop
  | absent : OptionalText none none
  | null : OptionalText (some .null) none
  | empty : OptionalText (some (.string "")) none
  | text {s : String} (h : s ≠ "") : OptionalText (some (.string s)) (some s)

theorem Json.optionalText_iff {given : Option Json} {text : Option String} :
    OptionalText given text ↔
      ∃ s, asOptionalString (given.getD .null) = .ok s ∧ Decision.nonempty s = text := by
  simp only [← nullableText_iff]
  constructor
  · rintro (_ | _ | _ | ⟨h⟩)
    · exact ⟨none, .absent, rfl⟩
    · exact ⟨none, .null, rfl⟩
    · exact ⟨some "", .text "", rfl⟩
    · exact ⟨some _, .text _, by simp [Decision.nonempty, h]⟩
  · rintro ⟨-, (_ | _ | s), rfl⟩
    · exact .absent
    · exact .null
    · by_cases hs : s = ""
      · subst hs
        exact .empty
      · have htext : Decision.nonempty (some s) = some s := by simp [Decision.nonempty, hs]
        rw [htext]
        exact .text hs

theorem Json.asBool_eq_ok_iff {v : Json} {b : Bool} : asBool v = .ok b ↔ v = .bool b := by
  cases v <;> simp [asBool]

namespace Decision

/-! ## What is a decision -/

/-- What the members of an object, given by name, must be to say what a decision says. -/
structure Verdict (member : String → Option Json) (d : Decision) : Prop where
  allowed : member "allow" = none ∧ member "allowed" = some (.bool d.allowed) ∨
    member "allowed" = none ∧ member "allow" = some (.bool d.allowed)
  reason : OptionalText (member "reason") d.reason
  policyId : member "policyID" = none ∧ OptionalText (member "policy_id") d.policyId ∨
    member "policy_id" = none ∧ OptionalText (member "policyID") d.policyId

/-- What the items of a list must be. -/
structure Listed (items : List Json) (d : Decision) : Prop where
  length_le : items.length ≤ 3
  allowed : items[0]? = some (.bool d.allowed)
  reason : OptionalText items[1]? d.reason
  policyId : OptionalText items[2]? d.policyId

/-! ## Building a decision -/

variable {raw : Json} {a : Assignment} {d : Decision}

/-- The decision that assigned fields amount to. -/
def ofAssignment (raw : Json) (a : Assignment) : Except Cause Decision := do
  let allowed ← a.boolean "allowed"
  let reason ← a.optionalString "reason"
  let policyId ← a.optionalString "policy_id"
  .ok ⟨allowed, nonempty reason, nonempty policyId, raw⟩

/-- A decision is read as any record is, and whatever fails is a failure to read. -/
theorem ofJson_eq (raw : Json) :
    ofJson raw = (layout.ofJson (ofAssignment raw) raw).mapError fun cause =>
      .deserialization cause.text := rfl

theorem boolean_eq_ok_iff {name : String} {b : Bool} :
    a.boolean name = .ok b ↔ a.value? name = some (.bool b) := by
  unfold Assignment.boolean Assignment.required
  cases a.value? name with
  | none => simp
  | some v => simp [asBool_eq_ok_iff]

theorem ofAssignment_eq_ok_iff :
    ofAssignment raw a = .ok d ↔
      a.value? "allowed" = some (.bool d.allowed) ∧
        OptionalText (a.value? "reason") d.reason ∧
        OptionalText (a.value? "policy_id") d.policyId ∧ d.raw = raw := by
  simp only [ofAssignment, bind_eq_ok_iff, boolean_eq_ok_iff, optionalText_iff,
    Assignment.optionalString]
  constructor
  · rintro ⟨allowed, hallowed, reason, hreason, policyId, hpolicyId, hd⟩
    simp only [Except.ok.injEq] at hd
    subst hd
    exact ⟨hallowed, ⟨reason, hreason, rfl⟩, ⟨policyId, hpolicyId, rfl⟩, rfl⟩
  · rintro ⟨hallowed, ⟨reason, hreason, hr⟩, ⟨policyId, hpolicyId, hp⟩, hraw⟩
    exact ⟨d.allowed, hallowed, reason, hreason, policyId, hpolicyId, by rw [hr, hp, ← hraw]⟩

/-! ## Objects -/

/-- The fields of a decision. -/
def allowedField : Field := { name := "allowed", aliases := ["allow"], kind := .boolean }
def reasonField : Field := { name := "reason", kind := .optionalString, required := false }
def policyIdField : Field :=
  { name := "policy_id", aliases := ["policyID"], kind := .optionalString, required := false }

theorem fields_layout : layout.fields = [allowedField, reasonField, policyIdField] := rfl

theorem allowedField_mem : allowedField ∈ layout.fields := by simp [fields_layout]
theorem reasonField_mem : reasonField ∈ layout.fields := by simp [fields_layout]
theorem policyIdField_mem : policyIdField ∈ layout.fields := by simp [fields_layout]

theorem unambiguous_layout : layout.Unambiguous := by
  rw [Layout.Unambiguous, fields_layout]
  decide

theorem check_optionalText {v : Json} {text : Option String} (h : OptionalText (some v) text) :
    Kind.optionalString.check v = .ok () := by
  cases h <;> rfl

section Object

variable {members : List (String × Json)} (hmembers : (members.map Prod.fst).Nodup)

include hmembers

/-- A verdict in terms of what is given for each field. -/
theorem verdict_iff :
    Verdict (lookup · members) d ↔ ∃ reason id, allowedField.given members = [.bool d.allowed] ∧
      reasonField.given members = reason.toList ∧ policyIdField.given members = id.toList ∧
      OptionalText reason d.reason ∧ OptionalText id d.policyId := by
  have hallowed : allowedField.given members = (some (.bool d.allowed)).toList ↔
      lookup "allow" members = none ∧ lookup "allowed" members = some (.bool d.allowed) ∨
        lookup "allowed" members = none ∧ lookup "allow" members = some (.bool d.allowed) :=
    Field.given_once_iff rfl (by decide) hmembers
  have hid (id : Option Json) : policyIdField.given members = id.toList ↔
      lookup "policyID" members = none ∧ lookup "policy_id" members = id ∨
        lookup "policy_id" members = none ∧ lookup "policyID" members = id :=
    Field.given_once_iff rfl (by decide) hmembers
  have hreason : reasonField.given members = (lookup "reason" members).toList :=
    Field.given_eq_toList rfl hmembers
  constructor
  · rintro ⟨hverdict, htext, ⟨hnone, hpolicy⟩ | ⟨hnone, hpolicy⟩⟩
    · exact ⟨_, _, hallowed.2 hverdict, hreason, (hid _).2 (Or.inl ⟨hnone, rfl⟩), htext, hpolicy⟩
    · exact ⟨_, _, hallowed.2 hverdict, hreason, (hid _).2 (Or.inr ⟨hnone, rfl⟩), htext, hpolicy⟩
  · rintro ⟨reason, id, hverdict, hgiven, hpolicy, htext, hidText⟩
    refine ⟨hallowed.1 hverdict, ?_, ?_⟩
    · rw [hreason] at hgiven
      have hsame := congrArg List.head? hgiven
      rw [Option.head?_toList, Option.head?_toList] at hsame
      exact hsame ▸ htext
    · rcases (hid id).1 hpolicy with ⟨hnone, hsome⟩ | ⟨hnone, hsome⟩
      · exact Or.inl ⟨hnone, hsome ▸ hidText⟩
      · exact Or.inr ⟨hnone, hsome ▸ hidText⟩

/-- An object is a decision if its members are a verdict. -/
theorem ofJson_object_eq_ok_iff :
    ofJson (.object members) = .ok d ↔
      Verdict (lookup · members) d ∧ d.raw = .object members := by
  have hvalue (hone : ∀ f ∈ layout.fields, (f.given members).length ≤ 1) {f : Field}
      (hf : f ∈ layout.fields) :
      Assignment.value? (layout.named members).reverse f.name = (f.given members).head? :=
    unambiguous_layout.value?_named hone hf
  rw [ofJson_eq, mapError_eq_ok_iff, unambiguous_layout.ofJson_object_eq_ok_iff,
    ofAssignment_eq_ok_iff, verdict_iff hmembers]
  constructor
  · rintro ⟨hfields, hverdict, htext, hid, hraw⟩
    have hone := fun f hf => (hfields f hf).1
    have hgiven {f : Field} (hf : f ∈ layout.fields) : f.given members =
        (Assignment.value? (layout.named members).reverse f.name).toList := by
      rw [hvalue hone hf]
      exact eq_toList_head? (hone f hf)
    refine ⟨⟨_, _, ?_, hgiven reasonField_mem, hgiven policyIdField_mem, htext, hid⟩, hraw⟩
    rw [hgiven allowedField_mem]
    exact congrArg Option.toList hverdict
  · rintro ⟨⟨reason, id, hverdict, hreason, hid, htext, hidText⟩, hraw⟩
    have hfields : ∀ f ∈ layout.fields,
        (f.given members).length ≤ 1 ∧ ∀ v ∈ f.given members, f.kind.check v = .ok () := by
      rw [fields_layout]
      simp only [List.forall_mem_cons, List.not_mem_nil, false_implies, implies_true, and_true,
        hverdict, hreason, hid, Option.length_toList_le, Option.mem_toList, List.length_singleton,
        Nat.le_refl, true_and]
      exact ⟨rfl, fun v hv => check_optionalText (hv ▸ htext),
        fun v hv => check_optionalText (hv ▸ hidText)⟩
    have hone := fun f hf => (hfields f hf).1
    have hallowed := hvalue hone allowedField_mem
    have hreasonValue := hvalue hone reasonField_mem
    have hidValue := hvalue hone policyIdField_mem
    rw [hverdict] at hallowed
    rw [hreason, Option.head?_toList] at hreasonValue
    rw [hid, Option.head?_toList] at hidValue
    exact ⟨hfields, hallowed, hreasonValue ▸ htext, hidValue ▸ hidText, hraw⟩

end Object

/-! ## Lists -/

/-- A list is a decision if it holds the fields of one. -/
theorem ofJson_array_eq_ok_iff {items : List Json} :
    ofJson (.array items) = .ok d ↔ Listed items d ∧ d.raw = .array items := by
  rw [ofJson_eq, mapError_eq_ok_iff, Layout.ofJson_array_eq_ok_iff, ofAssignment_eq_ok_iff]
  -- the fields with their items, of which there are at most three
  have hvalues (hlength : items.length ≤ 3) :
      Assignment.value? ((layout.fields.zip items).map fun p => (p.1.name, p.2)) "allowed" =
          items[0]? ∧
        Assignment.value? ((layout.fields.zip items).map fun p => (p.1.name, p.2)) "reason" =
          items[1]? ∧
        Assignment.value? ((layout.fields.zip items).map fun p => (p.1.name, p.2)) "policy_id" =
          items[2]? := by
    match items with
    | [] => exact ⟨rfl, rfl, rfl⟩
    | [_] => exact ⟨rfl, rfl, rfl⟩
    | [_, _] => exact ⟨rfl, rfl, rfl⟩
    | [_, _, _] => exact ⟨rfl, rfl, rfl⟩
  constructor
  · rintro ⟨hlength, -, -, hallowed, hreason, hid, hraw⟩
    obtain ⟨hfirst, hsecond, hthird⟩ := hvalues hlength
    exact ⟨⟨hlength, hfirst ▸ hallowed, hsecond ▸ hreason, hthird ▸ hid⟩, hraw⟩
  · rintro ⟨⟨hlength, hallowed, hreason, hid⟩, hraw⟩
    obtain ⟨hfirst, hsecond, hthird⟩ := hvalues hlength
    refine ⟨hlength, ?_, ?_, hfirst ▸ hallowed, hsecond ▸ hreason, hthird ▸ hid, hraw⟩
    · -- there is a first item, and only the first field must be there
      intro f hf
      have hpos : 1 ≤ items.length := (List.getElem?_eq_some_iff.1 hallowed).1
      have hrest : f ∈ layout.fields.drop 1 := List.drop_subset_drop_left _ hpos hf
      rw [fields_layout, List.drop_one, List.tail_cons, List.mem_pair] at hrest
      rcases hrest with rfl | rfl <;> rfl
    · intro p hp
      obtain ⟨n, hn⟩ := List.mem_iff_getElem?.1 hp
      obtain ⟨hfield, hitem⟩ := List.getElem?_zip_eq_some.1 hn
      rw [fields_layout] at hfield
      match n with
      | 0 =>
        rw [hallowed] at hitem
        rw [← Option.some.inj hfield, ← Option.some.inj hitem]
        rfl
      | 1 =>
        rw [← Option.some.inj hfield]
        exact check_optionalText (hitem ▸ hreason)
      | 2 =>
        rw [← Option.some.inj hfield]
        exact check_optionalText (hitem ▸ hid)
      | n + 3 => exact absurd hfield (by simp)

/-! ## The exact condition -/

/-- A number, a word or a string is no decision. -/
theorem ofJson_ne_ok {raw : Json} (hlist : raw.shape ≠ .sequence) (hmap : raw.shape ≠ .map) :
    ofJson raw ≠ .ok d := by
  cases raw <;> simp_all [ofJson_eq, Layout.ofJson, Layout.assignment, shape]

theorem read_eq_ok_iff {body : Bytes} :
    read body = .ok d ↔ ∃ raw, Json.read body = .ok raw ∧ ofJson raw = .ok d := by
  unfold read
  cases Json.read body with
  | error e => simp
  | ok raw => simp

theorem exists_reason_of_read_eq_error {body : Bytes} {e : EvaluationError}
    (h : read body = .error e) : ∃ reason, e = .deserialization reason := by
  unfold read at h
  split at h
  · rename_i raw hread
    rw [ofJson_eq] at h
    cases hdecision : layout.ofJson (ofAssignment raw) raw with
    | ok d => simp [hdecision] at h
    | error cause =>
      simp only [hdecision, mapError_error, Except.error.injEq] at h
      exact ⟨_, h.symm⟩
  · simp only [Except.error.injEq] at h
    exact ⟨_, h.symm⟩

/-- **What is a decision.** Bytes are read as a decision exactly if they are the JSON text of an
    object whose members, the last of each name, are its verdict, or the text of a list that holds
    the fields of one. The decision keeps the whole value. Whatever else the bytes are, the error
    is that they cannot be read. -/
theorem read_exact (body : Bytes) :
    (∀ d, read body = .ok d ↔
      (∃ written, Writes body written ∧ Verdict (last · written) d ∧
        d.raw = .object (insertAll [] written)) ∨
      (∃ items, Json.read body = .ok (.array items) ∧ Listed items d ∧ d.raw = .array items)) ∧
    ∀ e, read body = .error e → ∃ reason, e = .deserialization reason := by
  -- an object's members are what its text says last for each name
  have hobject (written : List (String × Json)) (d : Decision) :
      ofJson (.object (insertAll [] written)) = .ok d ↔
        Verdict (last · written) d ∧ d.raw = .object (insertAll [] written) := by
    have hlookup : (lookup · (insertAll [] written)) = (last · written) := by
      funext name
      rw [lookup_insertAll, lookup, Option.or_none]
    rw [ofJson_object_eq_ok_iff (nodup_of_sorted (sorted_insertAll List.Pairwise.nil)), hlookup]
  constructor
  · intro d
    rw [read_eq_ok_iff]
    constructor
    · rintro ⟨raw, hread, hdecision⟩
      cases raw with
      | object members =>
        obtain ⟨written, hwrites, rfl⟩ := read_eq_ok_object_iff.1 hread
        exact Or.inl ⟨written, hwrites, (hobject written d).1 hdecision⟩
      | array items => exact Or.inr ⟨items, hread, ofJson_array_eq_ok_iff.1 hdecision⟩
      | _ => exact absurd hdecision (ofJson_ne_ok (by simp [shape]) (by simp [shape]))
    · rintro (⟨written, hwrites, hverdict⟩ | ⟨items, hread, hlisted⟩)
      · exact ⟨_, read_eq_ok_object_iff.2 ⟨written, hwrites, rfl⟩, (hobject written d).2 hverdict⟩
      · exact ⟨_, hread, ofJson_array_eq_ok_iff.2 hlisted⟩
  · intro e h
    exact exists_reason_of_read_eq_error h

/-- A list of nothing but `true` gives access, though it is no object and names no verdict. -/
theorem read_list_of_true :
    read (Text.Utf8.encode "[true]") = .ok ⟨true, none, none, .array [.bool true]⟩ := by
  rfl

end Decision

end AccessDecision
