import AccessDecision.Proofs.Decision.Verdict

set_option autoImplicit false

/-! # Old and new names of a decision's fields

The verdict and the policy's id go by an old and a new name each. Which of the two an answer uses
makes no difference (`Decision.ofJson_respelled`), not even to the error: the members of an object
are visited in rising order of their names, so another name moves a field, but never past another
field. Both names of the verdict come before both of the policy's id, and these before the reason.
-/

namespace AccessDecision.Decision

open Json Outcome

variable {members others : List (String × Json)}

/-! ## Objects that differ in spelling -/

/-- No field is given under both of its names. -/
structure SpelledOnce (member : String → Option Json) : Prop where
  allowed : member "allowed" = none ∨ member "allow" = none
  policyId : member "policy_id" = none ∨ member "policyID" = none

/-- An object that says of each field, under either of its names, what another one says. Nothing is
    asked of its other members. -/
structure Respelled (member other : String → Option Json) : Prop where
  allowed : (other "allowed").or (other "allow") = (member "allowed").or (member "allow")
  reason : other "reason" = member "reason"
  policyId : (other "policy_id").or (other "policyID") = (member "policy_id").or (member "policyID")

/-! ## The fields in the order in which they are visited -/

/-- The names of the fields, in rising order. -/
def spellings : List String := ["allow", "allowed", "policyID", "policy_id", "reason"]

theorem pairwise_spellings : spellings.Pairwise (· < ·) := by
  simp only [spellings, List.pairwise_cons, List.forall_mem_cons]
  decide

theorem field?_isSome_iff (name : String) :
    (layout.field? name).isSome ↔ name ∈ spellings := by
  simp only [Layout.field?, List.find?_isSome, fields_layout, spellings, List.mem_cons,
    List.not_mem_nil, or_false, exists_eq_or_imp, exists_eq_left, Field.goesBy, allowedField,
    reasonField, policyIdField, List.contains_cons, List.contains_nil, Bool.or_false,
    Bool.or_eq_true, decide_eq_true_eq, beq_iff_eq]
  simp only [eq_comm (b := name)]
  tauto

/-- The values that are given for the fields, under the fields' own names. -/
def fieldsOf (member : String → Option Json) : Assignment :=
  (((member "allowed").or (member "allow")).toList.map fun v => ("allowed", v)) ++
    (((member "policy_id").or (member "policyID")).toList.map fun v => ("policy_id", v)) ++
    (member "reason").toList.map fun v => ("reason", v)

/-- Of two values of which one is missing, the other one is left. -/
theorem toList_or {v w : Option Json} (h : v = none ∨ w = none) :
    w.toList ++ v.toList = (v.or w).toList := by
  rcases h with rfl | rfl
  · simp
  · simp

/-- Read in order, an object gives its fields once each, in the order that the fields have. -/
theorem named_eq_fieldsOf (hmembers : Sorted members) (honce : SpelledOnce (lookup · members)) :
    layout.named (members.filter layout.knows) = fieldsOf (lookup · members) := by
  have hallow : layout.field? "allow" = some allowedField := rfl
  have hallowed : layout.field? "allowed" = some allowedField := rfl
  have hpolicyID : layout.field? "policyID" = some policyIdField := rfl
  have hpolicyId : layout.field? "policy_id" = some policyIdField := rfl
  have hreason : layout.field? "reason" = some reasonField := rfl
  rw [Layout.filter_knows_eq_pick pairwise_spellings field?_isSome_iff hmembers]
  unfold spellings
  simp only [pick_cons, Layout.named_append, Layout.named_toList hallow,
    Layout.named_toList hallowed, Layout.named_toList hpolicyID, Layout.named_toList hpolicyId,
    Layout.named_toList hreason]
  unfold fieldsOf
  rw [← toList_or honce.allowed, ← toList_or honce.policyId]
  have hnone : layout.named (pick [] members) = [] := rfl
  rw [hnone, List.append_nil]
  simp only [List.map_append, List.append_assoc]
  rfl

theorem fieldsOf_congr {member other : String → Option Json} (h : Respelled member other) :
    fieldsOf other = fieldsOf member := by
  rw [fieldsOf, fieldsOf, h.allowed, h.reason, h.policyId]

/-! ## The outcome -/

/-- A decision keeps the answer, and nothing else in it depends on that. -/
theorem ofAssignment_raw (raw raw' : Json) (a : Assignment) :
    ofAssignment raw' a = (ofAssignment raw a).map fun d => { d with raw := raw' } := by
  unfold ofAssignment
  cases a.boolean "allowed" with
  | error cause => rfl
  | ok allowed =>
    cases a.optionalString "reason" with
    | error cause => rfl
    | ok reason => cases a.optionalString "policy_id" <;> rfl

/-- The decision of an object depends on its fields alone, in the order that they have. -/
theorem ofJson_object_eq (hmembers : Sorted members) (honce : SpelledOnce (lookup · members)) :
    ofJson (.object members) =
      (layout.assign [] (fieldsOf (lookup · members)) >>= ofAssignment (.object members)).mapError
        fun cause => .deserialization cause.text := by
  rw [ofJson_eq, Layout.ofJson, Layout.assignment, ← Layout.assign_filter_knows,
    ← unambiguous_layout.assign_named, named_eq_fieldsOf hmembers honce]

/-- **Old and new names.** Two objects that say the same of every field, each under one of the
    field's names, are read alike, whatever other members there are: both are refused in the same
    words, or both are decisions that differ in nothing but the answer, which each keeps as it
    is. -/
theorem ofJson_respelled (hmembers : Sorted members) (hothers : Sorted others)
    (honce : SpelledOnce (lookup · members)) (honce' : SpelledOnce (lookup · others))
    (hrespelled : Respelled (lookup · members) (lookup · others)) :
    (∀ error, ofJson (.object others) = .error error ↔ ofJson (.object members) = .error error) ∧
      ∀ d, ofJson (.object members) = .ok d → d.raw = .object members ∧
        ofJson (.object others) = .ok { d with raw := .object others } := by
  have hsame : ofJson (.object others) =
      (ofJson (.object members)).map fun d => { d with raw := .object others } := by
    rw [ofJson_object_eq hothers honce', ofJson_object_eq hmembers honce,
      fieldsOf_congr hrespelled]
    cases layout.assign [] (fieldsOf (lookup · members)) with
    | error cause => rfl
    | ok a =>
      rw [ok_bind, ok_bind, ofAssignment_raw (.object members) (.object others)]
      cases ofAssignment (.object members) a <;> rfl
  constructor
  · intro error
    rw [hsame, map_eq_error_iff]
  · intro d hd
    rw [hsame, hd]
    exact ⟨((ofJson_object_eq_ok_iff (nodup_of_sorted hmembers)).1 hd).2, rfl⟩

/-- An answer of an older service and the same in new names with a member more, and two answers that
    are wrong in two fields each. -/
theorem ofJson_respelled_granted_and_refused :
    let older : List (String × Json) :=
      [("allow", .bool true), ("policyID", .string "p1"), ("reason", .string "")]
    let newer : List (String × Json) :=
      [("allowed", .bool true), ("context", .null), ("policy_id", .string "p1"),
        ("reason", .string "")]
    let older' : List (String × Json) := [("allow", .null), ("policyID", .bool true)]
    let newer' : List (String × Json) := [("allowed", .null), ("policy_id", .bool true)]
    Sorted older ∧ Sorted newer ∧ SpelledOnce (lookup · older) ∧ SpelledOnce (lookup · newer) ∧
      Respelled (lookup · older) (lookup · newer) ∧
      ofJson (.object newer) = .ok ⟨true, none, some "p1", .object newer⟩ ∧
      Sorted older' ∧ Sorted newer' ∧ SpelledOnce (lookup · older') ∧
      SpelledOnce (lookup · newer') ∧ Respelled (lookup · older') (lookup · newer') ∧
      ofJson (.object newer') =
        .error (.deserialization "invalid type: null, expected a boolean") := by
  intro older newer older' newer'
  have hsorted : Sorted older ∧ Sorted newer ∧ Sorted older' ∧ Sorted newer' := by
    simp only [Sorted, older, newer, older', newer', List.pairwise_cons, List.forall_mem_cons]
    decide
  obtain ⟨holder, hnewer, holder', hnewer'⟩ := hsorted
  have honce : SpelledOnce (lookup · older) := ⟨.inl rfl, .inl rfl⟩
  have honce' : SpelledOnce (lookup · newer) := ⟨.inr rfl, .inr rfl⟩
  have hsame : Respelled (lookup · older) (lookup · newer) := ⟨rfl, rfl, rfl⟩
  have hwrong : SpelledOnce (lookup · older') := ⟨.inl rfl, .inl rfl⟩
  have hwrong' : SpelledOnce (lookup · newer') := ⟨.inr rfl, .inr rfl⟩
  have halike : Respelled (lookup · older') (lookup · newer') := ⟨rfl, rfl, rfl⟩
  exact ⟨holder, hnewer, honce, honce', hsame,
    ((ofJson_respelled holder hnewer honce honce' hsame).2 ⟨true, none, some "p1", .object older⟩
      rfl).2,
    holder', hnewer', hwrong, hwrong', halike,
    ((ofJson_respelled holder' hnewer' hwrong hwrong' halike).1 _).2 rfl⟩

end AccessDecision.Decision
