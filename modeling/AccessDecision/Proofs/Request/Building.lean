import AccessDecision.Proofs.Json.Members
import AccessDecision.Proofs.Outcome
import AccessDecision.Request

set_option autoImplicit false

/-! # Building a request

The texts of a request are checked one after the other, and then what is sent along is turned into
JSON. Either the first that does not pass is named in an error, or there is the request with exactly
what was given. -/

namespace AccessDecision

open AccessDecision.Outcome

/-- What goes along for an attachment: the empty object for nothing, and otherwise the object or the
    list that it comes to. -/
def Attachment.SentAs (a : Attachment) (v : Json) : Prop :=
  (a.toJson = .ok .null ∧ v = .object []) ∨ (a.toJson = .ok v ∧ v.isStructured = true)

namespace Request

variable {purpose : Purpose} {subject resource action : String} {details : Attachment} {v : Json}
  {r r' : Request purpose}

/-! ## Texts -/

theorem required_of_blank (name : String) {value : String} (h : Text.isBlank value = true) :
    required name value = .error (.invalidRequest (name ++ " must not be empty")) := by
  rw [required, dif_neg (by simp [h])]

theorem required_of_not_blank (name : String) {value : String} (h : Text.isBlank value = false) :
    required name value = .ok ⟨value, h⟩ := by
  rw [required, dif_pos h]

/-- The texts that a request must have, in the order in which they are checked. -/
def texts (subject resource action : String) : List (String × String) :=
  [("subject", subject), ("resource", resource), ("action", action)]

/-- The first blank text is the one that is named. -/
theorem make_of_blank (purpose : Purpose) {name text : String}
    (h : (texts subject resource action).find? (fun t => Text.isBlank t.2) = some (name, text)) :
    make purpose subject resource action =
      .error (.invalidRequest (name ++ " must not be empty")) := by
  unfold make
  cases hsubject : Text.isBlank subject with
  | true =>
    obtain ⟨rfl, -⟩ : "subject" = name ∧ subject = text := by simpa [texts, hsubject] using h
    simp only [required_of_blank _ hsubject, error_bind]
  | false =>
    simp only [required_of_not_blank _ hsubject, ok_bind]
    cases hresource : Text.isBlank resource with
    | true =>
      obtain ⟨rfl, -⟩ : "resource" = name ∧ resource = text := by
        simpa [texts, hsubject, hresource] using h
      simp only [required_of_blank _ hresource, error_bind]
    | false =>
      simp only [required_of_not_blank _ hresource, ok_bind]
      cases haction : Text.isBlank action with
      | true =>
        obtain ⟨rfl, -⟩ : "action" = name ∧ action = text := by
          simpa [texts, hsubject, hresource, haction] using h
        simp only [required_of_blank _ haction, error_bind]
      | false => simp [texts, hsubject, hresource, haction] at h

/-- The request of texts that are not blank. -/
theorem make_of_not_blank (purpose : Purpose) (hsubject : Text.isBlank subject = false)
    (hresource : Text.isBlank resource = false) (haction : Text.isBlank action = false) :
    make purpose subject resource action =
      .ok ⟨none, subject, resource, action, .object [], hsubject, hresource, haction, rfl,
        ⟨List.Pairwise.nil, trivial⟩⟩ := by
  simp only [make, required_of_not_blank _ hsubject, required_of_not_blank _ hresource,
    required_of_not_blank _ haction, ok_bind]

/-! ## Details -/

theorem structured_of_error (purpose : Purpose) {error : AttachmentError}
    (h : details.toJson = .error error) :
    structured purpose details =
      .error (.serialization (purpose.detailsName ++ ": " ++ error.message)) := by
  unfold structured
  split <;> rename_i heq <;> rw [h] at heq <;> cases heq
  rfl

theorem structured_of_scalar (purpose : Purpose) (h : details.toJson = .ok v) (hnull : v ≠ .null)
    (hscalar : v.isStructured = false) :
    structured purpose details = .error (.serialization
      (purpose.detailsName ++ " must be a JSON object or array, got " ++ v.text)) := by
  unfold structured
  split <;> rename_i heq <;> rw [h] at heq <;> cases heq
  · exact absurd rfl hnull
  · exact absurd hscalar (by simp [Json.isStructured])
  · exact absurd hscalar (by simp [Json.isStructured])
  · rfl

theorem structured_of_null (purpose : Purpose) (h : details.toJson = .ok .null) :
    structured purpose details = .ok ⟨.object [], rfl, List.Pairwise.nil, trivial⟩ := by
  unfold structured
  split <;> rename_i heq <;> rw [h] at heq <;> cases heq
  exact absurd rfl ‹Json.null = Json.null → False›

theorem structured_of_structured (purpose : Purpose) (h : details.toJson = .ok v)
    (hv : v.isStructured = true) :
    structured purpose details = .ok ⟨v, hv, Attachment.canonical_of_toJson h⟩ := by
  unfold structured
  split <;> rename_i heq <;> rw [h] at heq <;> cases heq
  · exact absurd hv (by simp [Json.isStructured])
  · rfl
  · rfl
  · exact absurd hv (by simp [Json.isStructured])

/-- What can be sent is let through. -/
theorem exists_structured_of_sentAs (purpose : Purpose) (h : details.SentAs v) :
    ∃ w, structured purpose details = .ok w := by
  rcases h with ⟨hnull, -⟩ | ⟨hjson, hv⟩
  · exact ⟨_, structured_of_null purpose hnull⟩
  · exact ⟨_, structured_of_structured purpose hjson hv⟩

/-- With texts that are not blank, only what is sent along can be refused. -/
theorem make_withDetails_of_error {error : EvaluationError}
    (hsubject : Text.isBlank subject = false) (hresource : Text.isBlank resource = false)
    (haction : Text.isBlank action = false) (h : structured purpose details = .error error) :
    (make purpose subject resource action).bind (·.withDetails details) = .error error := by
  rw [make_of_not_blank purpose hsubject hresource haction, Except.bind, withDetails, h, error_bind]

/-! ## What a request keeps -/

theorem sentAs_of_structured {v : { v : Json // v.isStructured = true ∧ v.Canonical }}
    (h : structured purpose details = .ok v) : details.SentAs v.val := by
  cases hjson : details.toJson with
  | error error =>
    rw [structured_of_error purpose hjson] at h
    exact absurd h (by simp)
  | ok w =>
    by_cases hnull : w = .null
    · subst hnull
      rw [structured_of_null purpose hjson] at h
      obtain rfl := Except.ok.inj h
      exact Or.inl ⟨hjson, rfl⟩
    · cases hstructured : w.isStructured with
      | true =>
        rw [structured_of_structured purpose hjson hstructured] at h
        obtain rfl := Except.ok.inj h
        exact Or.inr ⟨hjson, hstructured⟩
      | false =>
        rw [structured_of_scalar purpose hjson hnull hstructured] at h
        exact absurd h (by simp)

theorem val_of_required {name value : String} {s : { s : String // Text.isBlank s = false }}
    (h : required name value = .ok s) : s.val = value := by
  unfold required at h
  split at h
  · exact congrArg Subtype.val (Except.ok.inj h).symm
  · exact absurd h (by simp)

/-- A request with other details is otherwise the same. -/
theorem of_withDetails (h : r.withDetails details = .ok r') :
    r'.tenant = r.tenant ∧ r'.subject = r.subject ∧ r'.resource = r.resource ∧
      r'.action = r.action ∧ details.SentAs r'.details := by
  obtain ⟨w, hw, hr⟩ := bind_eq_ok_iff.1 h
  obtain rfl := Except.ok.inj hr
  exact ⟨rfl, rfl, rfl, rfl, sentAs_of_structured hw⟩

theorem not_sentAs_of_withDetails {error : EvaluationError}
    (h : r.withDetails details = .error error) (v : Json) : ¬ details.SentAs v := by
  intro hsent
  obtain ⟨w, hw⟩ := exists_structured_of_sentAs purpose hsent
  rw [withDetails, hw] at h
  exact absurd h (by simp)

/-- A new request names no tenant and says what it was given. -/
theorem of_make_withDetails
    (h : (make purpose subject resource action).bind (·.withDetails details) = .ok r) :
    r.tenant = none ∧ r.subject = subject ∧ r.resource = resource ∧ r.action = action ∧
      details.SentAs r.details := by
  obtain ⟨plain, hmake, hdetails⟩ := bind_eq_ok_iff.1 h
  obtain ⟨htenant, hsubject, hresource, haction, hsent⟩ := of_withDetails hdetails
  simp only [make, bind_eq_ok_iff] at hmake
  obtain ⟨s, hs, t, ht, a, ha, hplain⟩ := hmake
  obtain rfl := Except.ok.inj hplain
  exact ⟨htenant, hsubject.trans (val_of_required hs), hresource.trans (val_of_required ht),
    haction.trans (val_of_required ha), hsent⟩

end Request

end AccessDecision
