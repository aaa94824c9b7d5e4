import AccessDecision.Proofs.Client.Transparency
import AccessDecision.Proofs.Request.Building

set_option autoImplicit false

/-! # Calls that end before anything is sent

The texts of a call are checked first, in their order, then what is sent along, and then the
identity of the client. The first that does not pass decides the error, and the call leaves no
trace: nothing is logged or sent, and the credentials stay as they were
(`Client.perform_without_trace`). For the identity this depends on what earlier calls left, because
a credential that is held would be handed out without a look at it; but a client whose identity
cannot sign never holds one (`Client.Reached.sound`). -/

namespace AccessDecision

open AccessDecision.Outcome

/-! ## What is checked -/

namespace Call

/-- The texts that must not be blank, with their names, in the order in which they are checked. -/
def texts : Call → List (String × String)
  | .evaluate subject resource action _ | .simulate subject resource action _ =>
    Request.texts subject resource action
  | .evaluateRequest _ | .evaluateCancellable _ => []
  | .compile rule => [("rule", rule)]
  | .validatePolicy policy => [("policy", policy)]

/-- What is sent along, with its name. -/
def details? : Call → Option (String × Attachment)
  | .evaluate _ _ _ conditions => some ("conditions", conditions)
  | .simulate _ _ _ context => some ("context", context)
  | .evaluateRequest _ | .evaluateCancellable _ | .compile _ | .validatePolicy _ => none

/-- Input is valid if no text is blank and what is sent along is nothing, an object or a list. -/
theorem valid_iff {call : Call} :
    call.Valid ↔ (∀ t ∈ call.texts, Text.isBlank t.2 = false) ∧
      ∀ name details, call.details? = some (name, details) → details.Sendable := by
  cases call <;> simp [Valid, texts, Request.texts, details?]

end Call

namespace Client

variable {c : Client} {call : Call} {s : Situation} {state : Cache.State}

/-! ## Input that is refused -/

/-- The first blank text is named. -/
theorem order_of_blank {name text : String}
    (h : call.texts.find? (fun t => Text.isBlank t.2) = some (name, text)) :
    c.order call = .error (.invalidRequest (name ++ " must not be empty")) := by
  cases call with
  | evaluate subject resource action conditions =>
    rw [order, Request.make_of_blank .access h]
    rfl
  | simulate subject resource action context =>
    rw [order, Request.make_of_blank .simulation h]
    rfl
  | evaluateRequest request | evaluateCancellable request => simp [Call.texts] at h
  | compile rule =>
    obtain ⟨hblank, rfl, rfl⟩ : Text.isBlank rule = true ∧ "rule" = name ∧ rule = text := by
      simpa [Call.texts, List.find?_cons_eq_some] using h
    rw [order, if_pos hblank]
    rfl
  | validatePolicy policy =>
    obtain ⟨hblank, rfl, rfl⟩ : Text.isBlank policy = true ∧ "policy" = name ∧ policy = text := by
      simpa [Call.texts, List.find?_cons_eq_some] using h
    rw [order, if_pos hblank]
    rfl

/-- With texts that are not blank, what is sent along is refused for its own reason. -/
theorem order_of_details {name : String} {details : Attachment} {error : EvaluationError}
    (htexts : ∀ t ∈ call.texts, Text.isBlank t.2 = false)
    (hdetails : call.details? = some (name, details))
    (h : ∀ purpose : Purpose, purpose.detailsName = name →
      Request.structured purpose details = .error error) :
    c.order call = .error error := by
  cases call with
  | evaluate subject resource action conditions =>
    obtain ⟨rfl, rfl⟩ : "conditions" = name ∧ conditions = details := by
      simpa [Call.details?] using hdetails
    simp only [Call.texts, Request.texts, List.forall_mem_cons] at htexts
    rw [order, Request.make_withDetails_of_error htexts.1 htexts.2.1 htexts.2.2.1 (h .access rfl)]
    rfl
  | simulate subject resource action context =>
    obtain ⟨rfl, rfl⟩ : "context" = name ∧ context = details := by
      simpa [Call.details?] using hdetails
    simp only [Call.texts, Request.texts, List.forall_mem_cons] at htexts
    rw [order,
      Request.make_withDetails_of_error htexts.1 htexts.2.1 htexts.2.2.1 (h .simulation rfl)]
    rfl
  | evaluateRequest request | evaluateCancellable request | compile rule | validatePolicy policy =>
    simp [Call.details?] at hdetails

/-! ## An identity that cannot sign -/

/-- What calls of a client, and forgetting what it holds, lead to from a new one. -/
inductive Reached (c : Client) : Cache.State → Prop where
  | new (entropy : Entropy) : Reached c ⟨none, entropy⟩
  | call {state : Cache.State} (call : Call) (s : Situation) :
    Reached c state → Reached c (c.perform call s state).state
  | invalidate {state : Cache.State} : Reached c state → Reached c (Cache.invalidate state)

/-- A client only ever holds what its identity has signed. -/
theorem Reached.sound (h : c.Reached state) : c.source.Sound state := by
  induction h with
  | new entropy => exact c.source.sound_of_nothing_held entropy
  | call call s _ ih => exact (perform_sound ih call s).1
  | invalidate _ _ => exact c.source.sound_of_nothing_held _

theorem perform_of_invalid_identity {error : CredentialError} (hsound : c.source.Sound state)
    (hvalid : call.Valid) (hinvalid : c.source.base.identity.validate = .error error) :
    c.perform call s state = .refused (.credential error) state := by
  obtain ⟨order, horder⟩ := exists_order_iff.2 hvalid
  exact perform_of_no_credential horder (hsound.issue_of_invalid hinvalid s.now)

/-- **No trace before anything is sent.** The first blank text of a call is refused; if there is
    none, what is sent along is refused unless it is nothing, an object or a list; and if that is
    so, an identity that cannot sign ends the call with its own error, even if the cancellation
    token has fired. Nothing is then logged or sent, and the credential that is held and the
    entropy stay as earlier calls left them. -/
theorem perform_without_trace (hreached : c.Reached state) (call : Call) (s : Situation) :
    (∀ name text, call.texts.find? (fun t => Text.isBlank t.2) = some (name, text) →
      c.perform call s state =
        ⟨.error (.invalidRequest (name ++ " must not be empty")), [], [], state⟩) ∧
    ((∀ t ∈ call.texts, Text.isBlank t.2 = false) →
      (∀ name details, call.details? = some (name, details) →
        (∀ error, details.toJson = .error error → c.perform call s state =
          ⟨.error (.serialization (name ++ ": " ++ error.message)), [], [], state⟩) ∧
        ∀ v, details.toJson = .ok v → v ≠ .null → v.isStructured = false →
          c.perform call s state =
            ⟨.error (.serialization (name ++ " must be a JSON object or array, got " ++ v.text)),
              [], [], state⟩) ∧
      ((∀ name details, call.details? = some (name, details) → details.Sendable) →
        ∀ error, c.source.base.identity.validate = .error error →
          c.perform call s state = ⟨.error (.credential error), [], [], state⟩)) := by
  refine ⟨fun name text hblank => perform_of_refused (order_of_blank hblank), ?_⟩
  intro htexts
  constructor
  · intro name details hdetails
    constructor
    · intro error herror
      refine perform_of_refused (order_of_details htexts hdetails ?_)
      rintro purpose rfl
      exact Request.structured_of_error purpose herror
    · intro v hjson hnull hscalar
      refine perform_of_refused (order_of_details htexts hdetails ?_)
      rintro purpose rfl
      exact Request.structured_of_scalar purpose hjson hnull hscalar
  · intro hsendable error hinvalid
    exact perform_of_invalid_identity hreached.sound (Call.valid_iff.2 ⟨htexts, hsendable⟩) hinvalid

/-- The secret is empty and the cancellation token has fired, before a call and after it. -/
theorem perform_without_trace_of_empty_secret :
    let c : Client := ⟨.default, ⟨"http".toList, [], [], some (.domain "localhost".toList),
      some 8080, .segments [[]], none, none⟩, [],
      .cache ⟨⟨⟨"svc", ""⟩, .hs256, none⟩, Cache.defaultMargin⟩⟩
    let fired : Situation := ⟨.epoch, ⟨0⟩, fun _ => ⟨.answered ⟨200, [], .whole []⟩, false⟩, true⟩
    let request : Request .access := ⟨none, "alice", "doc42", "read", .object [], by decide,
      by decide, by decide, rfl, ⟨List.Pairwise.nil, trivial⟩⟩
    let state := (c.perform (.compile "admins may read") fired ⟨none, .countingFrom 0⟩).state
    c.Reached state ∧
      c.perform (.evaluate "alice" " " "" (.failing "no")) fired state =
        ⟨.error (.invalidRequest "resource must not be empty"), [], [], state⟩ ∧
      c.perform (.simulate "alice" "doc42" "read" (.json (.bool true))) fired state =
        ⟨.error (.serialization "context must be a JSON object or array, got true"), [], [],
          state⟩ ∧
      c.perform (.evaluateCancellable request) fired state =
        ⟨.error (.credential (.configuration "client secret is missing or empty")), [], [],
          state⟩ := by
  intro c fired request state
  have hreached : c.Reached state := .call _ fired (.new _)
  refine ⟨hreached, ?_, ?_, ?_⟩
  · exact (perform_without_trace hreached (.evaluate "alice" " " "" (.failing "no")) fired).1
      "resource" " " (by decide)
  · exact (((perform_without_trace hreached
      (.simulate "alice" "doc42" "read" (.json (.bool true))) fired).2 (by decide)).1
      "context" _ rfl).2 (.bool true) rfl (by simp) rfl
  · exact ((perform_without_trace hreached (.evaluateCancellable request) fired).2
      (by decide)).2 (fun _ _ h => absurd h (by simp [Call.details?])) _ (by decide)

end Client

end AccessDecision
