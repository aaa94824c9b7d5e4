import AccessDecision.Proofs.Json.Layout
import AccessDecision.Proofs.Request.Building

set_option autoImplicit false

/-! # Reading a request is making one

`Draft.SaidBy` tells what the members of an object must be to say the parts of a request, and
nothing about what a request may be. A request is read off an object that says the parts of one, and
is what the same parts make: so the two ways fail alike, and in the same words
(`Request.ofJson_constructs`). -/

namespace AccessDecision

open Json Outcome

namespace Request

/-! ## Drafts -/

variable {purpose : Purpose} {members : List (String × Json)} {d : Draft}

/-- The names of the parts of a request. -/
def partNames (purpose : Purpose) : List String :=
  ["tenantID", "subject", "resource", "action", purpose.detailsName]

/-- What the members of an object, given by name, must be to say the parts of a request. The details
    may be anything, and `null` if there are none. -/
structure Draft.SaidBy (purpose : Purpose) (member : String → Option Json) (d : Draft) : Prop where
  tenant : NullableText (member "tenantID") d.tenant
  subject : member "subject" = some (.string d.subject)
  resource : member "resource" = some (.string d.resource)
  action : member "action" = some (.string d.action)
  details : d.details = (member purpose.detailsName).getD .null

/-- What the parts of a request make, in the way that requests are made. -/
def Draft.construct (purpose : Purpose) (d : Draft) : Except EvaluationError (Request purpose) :=
  (make purpose d.subject d.resource d.action).bind (·.withDetails (.json d.details))

theorem toRequest_eq (d : Draft) : d.toRequest purpose =
    (d.construct purpose).map fun r => { r with tenant := d.tenant } := by
  rw [Draft.toRequest, Draft.construct]
  cases hmake : make purpose d.subject d.resource d.action with
  | error e => rfl
  | ok r =>
    simp only [ok_bind, Except.bind]
    cases r.withDetails (.json d.details) <;> rfl

theorem toRequest_eq_ok_iff {r : Request purpose} :
    d.toRequest purpose = .ok r ↔
      ∃ built, d.construct purpose = .ok built ∧ r = { built with tenant := d.tenant } := by
  simp only [toRequest_eq, map_eq_ok_iff, eq_comm (a := r)]

theorem ofAssignment_eq_ok_iff {a : Assignment} :
    Draft.ofAssignment purpose a = .ok d ↔ d.SaidBy purpose a.value? := by
  simp only [Draft.ofAssignment, bind_eq_ok_iff, Assignment.string_eq_ok_iff,
    Assignment.optionalString, ← nullableText_iff]
  constructor
  · rintro ⟨tenant, htenant, subject, hsubject, resource, hresource, action, haction, hd⟩
    obtain rfl := Except.ok.inj hd
    exact ⟨htenant, hsubject, hresource, haction, rfl⟩
  · rintro ⟨htenant, hsubject, hresource, haction, hdetails⟩
    refine ⟨_, htenant, _, hsubject, _, hresource, _, haction, ?_⟩
    rw [Assignment.anything, ← hdetails]

/-! ## Reading a draft off an object -/

theorem unambiguous_layout (purpose : Purpose) : (layout purpose).Unambiguous := by
  cases purpose <;> · unfold Layout.Unambiguous; decide

theorem aliases_of_mem {f : Field} (hf : f ∈ (layout purpose).fields) : f.aliases = [] := by
  simp only [layout, List.mem_cons, List.not_mem_nil, or_false] at hf
  rcases hf with rfl | rfl | rfl | rfl | rfl <;> rfl

/-- What is said by name depends on the names of the parts alone. -/
theorem Draft.SaidBy.congr {member other : String → Option Json} (h : d.SaidBy purpose member)
    (hsame : ∀ name ∈ partNames purpose, other name = member name) : d.SaidBy purpose other := by
  simp only [partNames, List.forall_mem_cons, List.not_mem_nil, false_implies, implies_true,
    and_true] at hsame
  obtain ⟨htenant, hsubject, hresource, haction, hdetails⟩ := hsame
  exact ⟨htenant ▸ h.tenant, hsubject ▸ h.subject, hresource ▸ h.resource, haction ▸ h.action,
    hdetails ▸ h.details⟩

/-- There is one way to read the parts. -/
theorem Draft.SaidBy.unique {member : String → Option Json} {other : Draft}
    (h : d.SaidBy purpose member) (h' : other.SaidBy purpose member) : d = other := by
  have htenant := h.tenant.unique h'.tenant
  have hsubject := Json.string.inj (Option.some.inj (h.subject.symm.trans h'.subject))
  have hresource := Json.string.inj (Option.some.inj (h.resource.symm.trans h'.resource))
  have haction := Json.string.inj (Option.some.inj (h.action.symm.trans h'.action))
  have hdetails := h.details.trans h'.details.symm
  cases d
  cases other
  simp_all only

/-- The parts that are said have the kinds of their fields. -/
theorem Draft.SaidBy.check {member : String → Option Json} (h : d.SaidBy purpose member)
    {f : Field} (hf : f ∈ (layout purpose).fields) {v : Json} (hv : member f.name = some v) :
    f.kind.check v = .ok () := by
  simp only [layout, List.mem_cons, List.not_mem_nil, or_false] at hf
  rcases hf with rfl | rfl | rfl | rfl | rfl
  · have htenant := h.tenant
    rw [hv, nullableText_iff, Option.getD_some] at htenant
    rw [Kind.check, htenant, Except.map]
  · obtain rfl := Option.some.inj (hv.symm.trans h.subject)
    rfl
  · obtain rfl := Option.some.inj (hv.symm.trans h.resource)
    rfl
  · obtain rfl := Option.some.inj (hv.symm.trans h.action)
    rfl
  · rfl

/-- A draft is read off an object that says its parts and gives none of them twice. -/
theorem draft_of_object_iff :
    (layout purpose).ofJson (Draft.ofAssignment purpose) (.object members) = .ok d ↔
      (∀ f ∈ (layout purpose).fields, (f.given members).length ≤ 1) ∧
        d.SaidBy purpose (lookup · members) := by
  have hl := unambiguous_layout purpose
  have hvalue (hone : ∀ f ∈ (layout purpose).fields, (f.given members).length ≤ 1) :
      ∀ name ∈ partNames purpose,
        Assignment.value? ((layout purpose).named members).reverse name = lookup name members := by
    intro name hname
    obtain ⟨f, hf, rfl⟩ : ∃ f ∈ (layout purpose).fields, f.name = name := List.mem_map.1 hname
    rw [hl.value?_named hone hf, Field.head?_given (aliases_of_mem hf)]
  rw [hl.ofJson_object_eq_ok_iff, ofAssignment_eq_ok_iff]
  constructor
  · rintro ⟨hfields, hsaid⟩
    have hone := fun f hf => (hfields f hf).1
    exact ⟨hone, hsaid.congr fun name hname => (hvalue hone name hname).symm⟩
  · rintro ⟨hone, hsaid⟩
    refine ⟨?_, hsaid.congr (hvalue hone)⟩
    intro f hf
    refine ⟨hone f hf, ?_⟩
    intro v hv
    refine hsaid.check hf ?_
    rw [← Field.head?_given (aliases_of_mem hf)]
    rw [eq_toList_head? (hone f hf), Option.mem_toList] at hv
    exact hv

/-- Where no name stands twice, saying the parts is enough. -/
theorem draft_of_sorted_iff (hsorted : Sorted members) :
    (layout purpose).ofJson (Draft.ofAssignment purpose) (.object members) = .ok d ↔
      d.SaidBy purpose (lookup · members) := by
  rw [draft_of_object_iff, and_iff_right]
  intro f hf
  rw [Field.given_eq_toList (aliases_of_mem hf) (nodup_of_sorted hsorted)]
  exact Option.length_toList_le

/-- What a value must be to say the parts of a request: an object, or a list that holds them in
    order. -/
def Draft.SaidIn (purpose : Purpose) (d : Draft) : Json → Prop
  | .object members => d.SaidBy purpose (lookup · members)
  | .array items => d.SaidBy purpose (lookup · ((partNames purpose).zip items))
  | _ => False

theorem Draft.SaidIn.unique {v : Json} {other : Draft} (h : d.SaidIn purpose v)
    (h' : other.SaidIn purpose v) : d = other := by
  cases v with
  | object members => exact Draft.SaidBy.unique h h'
  | array items => exact Draft.SaidBy.unique h h'
  | null | bool _ | whole _ | real _ | string _ => exact h.elim

/-- A draft that is read off a value is said in it. -/
theorem saidIn_of_draft {v : Json}
    (h : (layout purpose).ofJson (Draft.ofAssignment purpose) v = .ok d) : d.SaidIn purpose v := by
  cases v with
  | object members => exact (draft_of_object_iff.1 h).2
  | array items =>
    obtain ⟨-, -, -, hbuild⟩ := Layout.ofJson_array_eq_ok_iff.1 h
    have hzip : ((layout purpose).fields.zip items).map (fun p => (p.1.name, p.2)) =
        (partNames purpose).zip items :=
      List.zip_map_left.symm
    rw [hzip] at hbuild
    exact ofAssignment_eq_ok_iff.1 hbuild
  | null | bool _ | whole _ | real _ | string _ =>
    exact absurd h (by simp [Layout.ofJson, Layout.assignment])

/-! ## Reading a request off an object -/

theorem ofJson_eq_ok_iff {v : Json} {r : Request purpose} :
    ofJson purpose v = .ok r ↔
      ∃ d, (layout purpose).ofJson (Draft.ofAssignment purpose) v = .ok d ∧
        d.toRequest purpose = .ok r := by
  rw [ofJson]
  cases (layout purpose).ofJson (Draft.ofAssignment purpose) v with
  | error cause => simp
  | ok d => simp [mapError_eq_ok_iff]

/-- **Reading a request is making one.** An object gives a request exactly if it says the parts of
    one and these can be made into one, which is the request then, on behalf of the tenant that is
    said. Parts that cannot be made into one are refused in the words in which making them is. And
    members that are no parts do not matter. -/
theorem ofJson_constructs (purpose : Purpose) {members : List (String × Json)}
    (hsorted : Sorted members) :
    (∀ r : Request purpose, ofJson purpose (.object members) = .ok r ↔
      ∃ (d : Draft) (built : Request purpose), d.SaidBy purpose (lookup · members) ∧
        (make purpose d.subject d.resource d.action).bind (·.withDetails (.json d.details)) =
          .ok built ∧
        r = { built with tenant := d.tenant }) ∧
    (∀ (d : Draft) (error : EvaluationError), d.SaidBy purpose (lookup · members) →
      (make purpose d.subject d.resource d.action).bind (·.withDetails (.json d.details)) =
          .error error →
        ∃ e, ofJson purpose (.object members) = .error e ∧ e.message = error.message) ∧
    ∀ others : List (String × Json), Sorted others →
      (∀ name ∈ partNames purpose, lookup name others = lookup name members) →
        ofJson purpose (.object others) = ofJson purpose (.object members) := by
  refine ⟨?_, ?_, ?_⟩
  · intro r
    simp only [ofJson_eq_ok_iff, draft_of_sorted_iff hsorted, toRequest_eq_ok_iff, Draft.construct,
      exists_and_left]
  · intro d error hsaid herror
    refine ⟨.refused error, ?_, rfl⟩
    have hconstruct : d.construct purpose = .error error := herror
    rw [ofJson, (draft_of_sorted_iff hsorted).2 hsaid]
    simp only [toRequest_eq, hconstruct]
    rfl
  · intro others hothers hsame
    unfold ofJson
    rw [Layout.ofJson_object_congr hsorted hothers]
    intro name hname
    refine hsame name ?_
    obtain ⟨f, hf⟩ := Option.isSome_iff_exists.1 hname
    have hmem := List.mem_of_find?_eq_some hf
    have hgoes := ((unambiguous_layout purpose).field?_eq_some_iff hmem).1 hf
    rw [Field.goesBy, aliases_of_mem hmem, List.contains_nil, Bool.or_false,
      decide_eq_true_eq] at hgoes
    exact hgoes ▸ List.mem_map_of_mem hmem

/-- Without a tenant and details, next to a member that is no part: of one resource, and of one that
    is nothing but an ideographic space. -/
theorem ofJson_constructs_of_resource :
    let members (resource : String) : List (String × Json) :=
      [("action", .string "read"), ("resource", .string resource), ("subject", .string "alice"),
        ("tenantID", .null), ("zone", .bool true)]
    let request : Request .access := ⟨none, "alice", "doc42", "read", .object [], by decide,
      by decide, by decide, rfl, List.Pairwise.nil, trivial⟩
    Sorted (members "doc42") ∧ ofJson .access (.object (members "doc42")) = .ok request ∧
      Sorted (members "\u3000") ∧ ∃ e, ofJson .access (.object (members "\u3000")) = .error e ∧
        e.message = "Invalid policy request: resource must not be empty" := by
  intro members request
  have hsorted : ∀ resource, Sorted (members resource) := by
    intro resource
    simp only [Sorted, members, List.pairwise_cons, List.forall_mem_cons]
    decide
  have hsaid (resource : String) : Draft.SaidBy .access (lookup · (members resource))
      ⟨none, "alice", resource, "read", .null⟩ := ⟨.null, rfl, rfl, rfl, rfl⟩
  exact ⟨hsorted _, ((ofJson_constructs .access (hsorted "doc42")).1 request).2
      ⟨_, request, hsaid "doc42", rfl, rfl⟩,
    hsorted _, (ofJson_constructs .access (hsorted "\u3000")).2.1 _ _ (hsaid "\u3000") rfl⟩

end Request

end AccessDecision
