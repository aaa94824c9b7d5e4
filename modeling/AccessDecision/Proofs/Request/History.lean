import AccessDecision.Proofs.Json.Held
import AccessDecision.Proofs.Request.Codec
import AccessDecision.Proofs.Request.Decoding
import Mathlib.Data.List.Induction

set_option autoImplicit false

/-! # What becomes of a request

A request is made from three texts or read off a value or a text (`Origin`). From there on it is
given other details or a tenant, or is written and read back (`Step`), where a step that fails
leaves it as it was. Through all this it keeps the texts of its origin, and shows the last details
that it could take and the last tenant: `Reflects` is this invariant, which holds of what an origin
gives (`reflects_of_gives`), is kept by each step (`Reflects.apply`) and so by any number of them
(`after_reflects`). That no text is blank and that the details are structured need not be carried
along, since there is no request without it. -/

namespace AccessDecision.Request

open Json Outcome

variable {purpose : Purpose} {r r' : Request purpose} {d : Draft} {a : Attachment} {v : Json}

/-! ## The last of the attachments -/

/-- What goes along for the last attachment that can be sent. -/
def LastSent (attachments : List Attachment) (v : Json) : Prop :=
  ∃ front a back, attachments = front ++ a :: back ∧ a.SentAs v ∧ ∀ b ∈ back, ∀ w, ¬ b.SentAs w

section Attachments

variable {attachments : List Attachment}

theorem lastSent_append_of_sentAs (attachments : List Attachment) (h : a.SentAs v) :
    LastSent (attachments ++ [a]) v :=
  ⟨attachments, a, [], rfl, h, by simp⟩

/-- An attachment that cannot be sent does not count. -/
theorem LastSent.append_of_not (h : LastSent attachments v) (ha : ∀ w, ¬ a.SentAs w) :
    LastSent (attachments ++ [a]) v := by
  obtain ⟨front, last, back, rfl, hlast, hback⟩ := h
  refine ⟨front, last, back ++ [a], by simp, hlast, ?_⟩
  intro b hb
  rcases List.mem_append.1 hb with hb | hb
  · exact hback b hb
  · exact List.mem_singleton.1 hb ▸ ha

end Attachments

/-! ## Origins -/

/-- Where a request comes from. -/
inductive Origin where
  | texts (subject resource action : String)
  | value (v : Json)
  | text (input : Bytes)

/-- The request that is made or read. -/
def Origin.Gives : Origin → Request purpose → Prop
  | .texts subject resource action, r => make purpose subject resource action = .ok r
  | .value v, r => ofJson purpose v = .ok r
  | .text input, r => read purpose input = .ok r

/-- The parts of a request as the origin says them. -/
def Origin.Says (purpose : Purpose) : Origin → Draft → Prop
  | .texts subject resource action, d => d = ⟨none, subject, resource, action, .null⟩
  | .value v, d => d.SaidIn purpose v
  | .text input, d => ∃ v, (layout purpose).Holds input v ∧ d.SaidIn purpose v

theorem Origin.Says.unique {o : Origin} {other : Draft} (h : o.Says purpose d)
    (h' : o.Says purpose other) : d = other := by
  cases o with
  | texts subject resource action => exact Eq.trans h (Eq.symm h')
  | value v => exact Draft.SaidIn.unique h h'
  | text input =>
    obtain ⟨v, hv, hsaid⟩ := h
    obtain ⟨w, hw, hsaid'⟩ := h'
    obtain rfl := hv.unique hw
    exact hsaid.unique hsaid'

/-- A request of three texts is one without a tenant and without details. -/
theorem toRequest_of_make {subject resource action : String}
    (h : make purpose subject resource action = .ok r) :
    Draft.toRequest purpose ⟨none, subject, resource, action, .null⟩ = .ok r := by
  rw [Draft.toRequest, h, ok_bind, withDetails, structured_of_null purpose rfl, ok_bind, ok_bind]
  simp only [make, bind_eq_ok_iff] at h
  obtain ⟨s, -, t, -, u, -, hr⟩ := h
  obtain rfl := Except.ok.inj hr
  rfl

theorem exists_draft_of_read {input : Bytes} (h : read purpose input = .ok r) :
    ∃ d rest, (layout purpose).readRecord (Draft.ofAssignment purpose) input = .ok (d, rest) ∧
      readEnd rest = .ok () ∧ d.toRequest purpose = .ok r := by
  rw [read] at h
  split at h
  · exact absurd h (by simp)
  rename_i d rest hrecord
  split at h
  · exact absurd h (by simp)
  rename_i request hrequest
  split at h
  · exact absurd h (by simp)
  rename_i hend
  obtain rfl := Except.ok.inj h
  exact ⟨d, rest, hrecord, hend, hrequest⟩

/-- What an origin gives is what its parts make. -/
theorem exists_says_of_gives {o : Origin} (h : o.Gives r) :
    ∃ d, o.Says purpose d ∧ d.toRequest purpose = .ok r := by
  cases o with
  | texts subject resource action => exact ⟨_, rfl, toRequest_of_make h⟩
  | value v =>
    obtain ⟨d, hd, hrequest⟩ := ofJson_eq_ok_iff.1 h
    exact ⟨d, saidIn_of_draft hd, hrequest⟩
  | text input =>
    obtain ⟨d, rest, hrecord, hend, hrequest⟩ := exists_draft_of_read h
    obtain ⟨v, hv, hd⟩ := Layout.exists_holds_of_readRecord hrecord hend
    exact ⟨d, ⟨v, hv, saidIn_of_draft hd⟩, hrequest⟩

/-! ## Steps -/

/-- What can be done with a request. -/
inductive Step where
  | details (a : Attachment)
  | tenant (name : String)
  /-- The request is written, and read back. -/
  | recode

/-- The request after a step; if the step fails, the request before it. -/
def Step.apply (step : Step) (r : Request purpose) : Request purpose :=
  match step with
  | .details a => (r.withDetails a).toOption.getD r
  | .tenant name => r.withTenant name
  | .recode => (read purpose (Text.Utf8.encode r.text)).toOption.getD r

def after (r : Request purpose) (steps : List Step) : Request purpose :=
  steps.foldl (fun r step => step.apply r) r

def Step.attachment? : Step → Option Attachment
  | .details a => some a
  | .tenant _ | .recode => none

def Step.tenant? : Step → Option String
  | .tenant name => some name
  | .details _ | .recode => none

/-- All details that were to be attached, whether or not they could be. -/
def attachments (steps : List Step) : List Attachment := steps.filterMap Step.attachment?

/-- All tenants that were set. -/
def tenants (steps : List Step) : List String := steps.filterMap Step.tenant?

theorem attachments_append (steps : List Step) (step : Step) :
    attachments (steps ++ [step]) = attachments steps ++ step.attachment?.toList := by
  rw [attachments, List.filterMap_append, attachments]
  cases step <;> rfl

theorem tenants_append (steps : List Step) (step : Step) :
    tenants (steps ++ [step]) = tenants steps ++ step.tenant?.toList := by
  rw [tenants, List.filterMap_append, tenants]
  cases step <;> rfl

/-- The details hold no real numbers where the request is written. -/
def Recodable (r : Request purpose) (steps : List Step) : Prop :=
  ∀ front, (front ++ [Step.recode]) <+: steps → (after r front).details.hasReal = false

theorem after_append (r : Request purpose) (steps : List Step) (step : Step) :
    after r (steps ++ [step]) = step.apply (after r steps) := by
  simp [after]

/-! ## The invariant -/

/-- What a request shows of its origin and of the steps since. -/
structure Reflects (d : Draft) (steps : List Step) (r : Request purpose) : Prop where
  subject : r.subject = d.subject
  resource : r.resource = d.resource
  action : r.action = d.action
  details : LastSent (.json d.details :: attachments steps) r.details
  tenant : r.tenant = (tenants steps).getLast?.or d.tenant

theorem reflects_of_toRequest (h : d.toRequest purpose = .ok r) : Reflects d [] r := by
  obtain ⟨built, hbuilt, rfl⟩ := toRequest_eq_ok_iff.1 h
  obtain ⟨-, hsubject, hresource, haction, hdetails⟩ := of_make_withDetails hbuilt
  exact ⟨hsubject, hresource, haction, lastSent_append_of_sentAs [] hdetails, rfl⟩

section Step

variable {steps : List Step}

/-- What a step must change and what it must leave alone. -/
theorem Reflects.append (h : Reflects d steps r) {step : Step} (hsubject : r'.subject = r.subject)
    (hresource : r'.resource = r.resource) (haction : r'.action = r.action)
    (hdetails : LastSent (.json d.details :: attachments steps ++ step.attachment?.toList)
      r'.details)
    (htenant : r'.tenant = step.tenant?.or r.tenant) : Reflects d (steps ++ [step]) r' := by
  refine ⟨hsubject.trans h.subject, hresource.trans h.resource, haction.trans h.action, ?_, ?_⟩
  · rwa [attachments_append]
  · rw [tenants_append, htenant, h.tenant]
    cases step.tenant? <;> simp

theorem Reflects.apply_details (h : Reflects d steps r) (a : Attachment) :
    Reflects d (steps ++ [.details a]) ((Step.details a).apply r) := by
  rw [Step.apply]
  cases hr : r.withDetails a with
  | error error =>
    exact h.append rfl rfl rfl (h.details.append_of_not (not_sentAs_of_withDetails hr)) rfl
  | ok r' =>
    obtain ⟨htenant, hsubject, hresource, haction, hsent⟩ := of_withDetails hr
    exact h.append hsubject hresource haction (lastSent_append_of_sentAs _ hsent) htenant

/-- Without real numbers, reading back what was written changes nothing, even if it fails. -/
theorem apply_recode (hreal : r.details.hasReal = false) : Step.recode.apply r = r := by
  rw [Step.apply]
  cases hread : read purpose (Text.Utf8.encode r.text) with
  | error error => rfl
  | ok other => exact eq_of_read_text hreal hread

/-- **A step keeps the invariant.** -/
theorem Reflects.apply (h : Reflects d steps r) (step : Step)
    (hreal : step = .recode → r.details.hasReal = false) :
    Reflects d (steps ++ [step]) (step.apply r) := by
  have hkept {step : Step} (hnone : step.attachment? = none) :
      LastSent (.json d.details :: attachments steps ++ step.attachment?.toList) r.details := by
    rw [hnone, Option.toList_none, List.append_nil]
    exact h.details
  cases step with
  | details a => exact h.apply_details a
  | tenant name => exact h.append rfl rfl rfl (hkept rfl) rfl
  | recode =>
    rw [apply_recode (hreal rfl)]
    exact h.append rfl rfl rfl (hkept rfl) rfl

end Step

theorem reflects_after (h : Reflects d [] r) {steps : List Step} (hsteps : Recodable r steps) :
    Reflects d steps (after r steps) := by
  -- the steps are taken in turn, so the induction adds them at the end
  induction steps using List.reverseRecOn with
  | nil => exact h
  | append_singleton steps step ih =>
    have hbefore : Recodable r steps := fun front hfront =>
      hsteps front (hfront.trans (List.prefix_append steps [step]))
    rw [after_append]
    refine (ih hbefore).apply step ?_
    rintro rfl
    exact hsteps steps (List.prefix_refl _)

/-- **A request is valid and shows what was set last.** Whatever a request was made from and however
    often it was changed or written and read back, its texts are those of its origin as they stood
    there, none is blank, its details are an object or a list, namely what went along for the last
    details that could be attached, and its tenant is the last that was set. -/
theorem after_reflects {o : Origin} {r : Request purpose} {steps : List Step} (hr : o.Gives r)
    (hsteps : Recodable r steps) :
    ∃ d, (∀ other, o.Says purpose other ↔ other = d) ∧
      let last := after r steps
      last.subject = d.subject ∧ last.resource = d.resource ∧ last.action = d.action ∧
      Text.isBlank last.subject = false ∧ Text.isBlank last.resource = false ∧
      Text.isBlank last.action = false ∧ last.details.isStructured = true ∧
      LastSent (.json d.details :: attachments steps) last.details ∧
      last.tenant = (tenants steps).getLast?.or d.tenant := by
  obtain ⟨d, hsays, hrequest⟩ := exists_says_of_gives hr
  have hlast := reflects_after (reflects_of_toRequest hrequest) hsteps
  refine ⟨d, ?_, hlast.subject, hlast.resource, hlast.action, Request.subject_not_blank _,
    Request.resource_not_blank _, Request.action_not_blank _, Request.details_structured _,
    hlast.details, hlast.tenant⟩
  intro other
  constructor
  · intro hother
    exact hother.unique hsays
  · rintro rfl
    exact hsays

/-- From a list without details, which stays without: `true` is refused, then the request is written
    and read back, and it gets another tenant. -/
theorem after_reflects_of_list :
    let origin : Origin :=
      .value (.array [.string "acme", .string " alice", .string "doc42", .string "read"])
    let request : Request .access := ⟨some "acme", " alice", "doc42", "read", .object [], by decide,
      by decide, by decide, rfl, List.Pairwise.nil, trivial⟩
    let steps : List Step := [.details (.json (.bool true)), .recode, .tenant "core"]
    origin.Gives request ∧ Recodable request steps ∧ (after request steps).subject = " alice" ∧
      LastSent [.json .null, .json (.bool true)] (after request steps).details ∧
      (after request steps).tenant = some "core" := by
  intro origin request steps
  have hgives : origin.Gives request := rfl
  have hsteps : Recodable request steps := by
    rintro front ⟨back, hsplit⟩
    -- the only place at which the request is written is behind the first step
    match front, hsplit with
    | [_], hsplit =>
      obtain ⟨rfl, -⟩ := List.cons.inj hsplit
      rfl
    | [_, _], hsplit => exact absurd hsplit (by simp [steps])
    | [], hsplit => exact absurd hsplit (by simp [steps])
    | _ :: _ :: _ :: _, hsplit => exact absurd (congrArg List.length hsplit) (by simp [steps])
  have hsays : origin.Says .access ⟨some "acme", " alice", "doc42", "read", .null⟩ :=
    Draft.SaidBy.mk (.text "acme") rfl rfl rfl rfl
  obtain ⟨d, hd, hsubject, -, -, -, -, -, -, hdetails, htenant⟩ := after_reflects hgives hsteps
  obtain rfl := (hd _).1 hsays
  exact ⟨hgives, hsteps, hsubject, hdetails, htenant⟩

end AccessDecision.Request
