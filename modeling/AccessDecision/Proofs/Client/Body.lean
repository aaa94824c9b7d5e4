import AccessDecision.Proofs.Client.Dispatch
import AccessDecision.Proofs.Json.Value
import AccessDecision.Proofs.Request.Building

set_option autoImplicit false

/-! # What the service is asked

The six operations send four kinds of bodies. What they have in common is that the body is an object
of the members that the call gives (`Call.Asks`), with the tenant in front of them, if there is one
(`Call.tenant?`). So the service receives what was asked and nothing else
(`Client.perform_body`). -/

namespace AccessDecision

open AccessDecision.Outcome AccessDecision.Json

/-! ## Tenants -/

/-- The member that names a tenant, if there is one. -/
def tenantMember (tenant : Option String) : List (String × Json) :=
  tenant.toList.map fun t => ("tenantID", .string t)

/-- On whose behalf a call is made: on behalf of the configured tenant, unless the caller's request
    names one itself. -/
def Call.tenant? (configured : Option String) : Call → Option String
  | .evaluateRequest request | .evaluateCancellable request => request.tenant.or configured
  | .evaluate .. | .simulate .. | .compile _ | .validatePolicy _ => configured

namespace Request

variable {purpose : Purpose}

/-- The same request on behalf of a tenant, or of none. -/
def onBehalfOf (r : Request purpose) (tenant : Option String) : Request purpose := { r with tenant }

/-- The members of a request, but for the tenant. -/
def ownMembers (r : Request purpose) : List (String × Json) :=
  [("subject", .string r.subject), ("resource", .string r.resource), ("action", .string r.action),
    (purpose.detailsName, r.details)]

theorem text_onBehalfOf (r : Request purpose) (tenant : Option String) :
    (r.onBehalfOf tenant).text = (Json.object (tenantMember tenant ++ r.ownMembers)).text := rfl

/-- The tenant of the request always wins. -/
theorem withDefaultTenant_eq (r : Request purpose) (configured : Option String) :
    r.withDefaultTenant configured = r.onBehalfOf (r.tenant.or configured) := by
  obtain ⟨tenant, subject, resource, action, details⟩ := r
  cases tenant with
  | none => rfl
  | some tenant => rfl

end Request

namespace Call

/-! ## Content -/

/-- The text that a call sends on behalf of a tenant, and its members apart from the tenant. A
    request that is given by its parts is the one that is built of them. -/
inductive Asks (tenant : Option String) : Call → String → List (String × Json) → Prop
  | evaluate {subject resource action : String} {conditions : Attachment}
    {request : Request .access}
    (hbuilt : (Request.make .access subject resource action).bind (·.withDetails conditions) =
      .ok request)
    (hsubject : request.subject = subject) (hresource : request.resource = resource)
    (haction : request.action = action) (hdetails : conditions.SentAs request.details) :
    Asks tenant (.evaluate subject resource action conditions) (request.onBehalfOf tenant).text
      request.ownMembers
  | evaluateRequest (request : Request .access) :
    Asks tenant (.evaluateRequest request) (request.onBehalfOf tenant).text request.ownMembers
  | evaluateCancellable (request : Request .access) :
    Asks tenant (.evaluateCancellable request) (request.onBehalfOf tenant).text request.ownMembers
  | simulate {subject resource action : String} {context : Attachment}
    {request : Request .simulation}
    (hbuilt : (Request.make .simulation subject resource action).bind (·.withDetails context) =
      .ok request)
    (hsubject : request.subject = subject) (hresource : request.resource = resource)
    (haction : request.action = action) (hdetails : context.SentAs request.details) :
    Asks tenant (.simulate subject resource action context) (request.onBehalfOf tenant).text
      request.ownMembers
  | compile (rule : String) :
    Asks tenant (.compile rule)
      (Json.object (tenantMember tenant ++ [("rule", .string rule)])).text [("rule", .string rule)]
  | validatePolicy (policy : String) :
    Asks tenant (.validatePolicy policy)
      (Json.object (tenantMember tenant ++ [("policy", .string policy)])).text
      [("policy", .string policy)]

variable {tenant : Option String} {call : Call} {text : String} {members : List (String × Json)}

theorem Asks.text_eq (h : call.Asks tenant text members) :
    text = (Json.object (tenantMember tenant ++ members)).text := by
  cases h with
  | @evaluate _ _ _ _ request | @simulate _ _ _ _ request | evaluateRequest request
  | evaluateCancellable request => exact request.text_onBehalfOf tenant
  | compile | validatePolicy => rfl

theorem Asks.canonical (h : call.Asks tenant text members) :
    CanonicalMembers (tenantMember tenant ++ members) := by
  have hmembers : CanonicalMembers members := by
    cases h with
    | @evaluate _ _ _ _ request | @simulate _ _ _ _ request | evaluateRequest request
    | evaluateCancellable request =>
      exact ⟨trivial, trivial, trivial, request.details_canonical, trivial⟩
    | compile | validatePolicy => exact ⟨trivial, trivial⟩
  cases tenant with
  | none => exact hmembers
  | some t => exact ⟨trivial, hmembers⟩

/-- No member has the name of another or of the one for the tenant. -/
theorem Asks.nodup (h : call.Asks tenant text members) :
    ("tenantID" :: members.map Prod.fst).Nodup := by
  cases h with
  | evaluate | evaluateRequest | evaluateCancellable | simulate =>
    simp [Request.ownMembers, Purpose.detailsName]
  | compile | validatePolicy => simp

end Call

section Tenant

variable (tenant : Option String) {members : List (String × Json)}

/-- A tenant adds neither real numbers nor depth. -/
theorem parts_tenantMember (members : List (String × Json)) :
    hasRealMembers (tenantMember tenant ++ members) = hasRealMembers members ∧
      nestingMembers (tenantMember tenant ++ members) = nestingMembers members := by
  cases tenant with
  | none => exact ⟨rfl, rfl⟩
  | some t => exact ⟨rfl, Nat.zero_max _⟩

theorem nodup_tenantMember (h : ("tenantID" :: members.map Prod.fst).Nodup) :
    ((tenantMember tenant ++ members).map Prod.fst).Nodup := by
  cases tenant with
  | none => exact (List.nodup_cons.1 h).2
  | some t => exact h

/-- Of distinct members the one of the tenant says who that is. -/
theorem mem_tenantMember_iff (h : ("tenantID" :: members.map Prod.fst).Nodup) (v : Json) :
    ("tenantID", v) ∈ tenantMember tenant ++ members ↔ ∃ t, tenant = some t ∧ v = .string t := by
  have hmembers : ("tenantID", v) ∉ members := fun hmem =>
    (List.nodup_cons.1 h).1 (List.mem_map_of_mem hmem)
  simp [tenantMember, hmembers, eq_comm]

end Tenant

namespace Client

variable {c : Client} {call : Call}

/-! ## The body of a call -/

theorem body_accessOrder (c : Client) (request : Request .access) :
    (c.accessOrder request).body =
      Text.Utf8.encode (request.onBehalfOf (request.tenant.or c.config.tenant)).text := by
  rw [accessOrder, Request.withDefaultTenant_eq]

theorem body_simulationOrder (c : Client) (request : Request .simulation) :
    (c.simulationOrder request).body =
      Text.Utf8.encode (request.onBehalfOf (request.tenant.or c.config.tenant)).text := by
  rw [simulationOrder, Request.withDefaultTenant_eq]

/-- An order is for what the call asks, on behalf of its tenant. -/
theorem order_asks {order : Order} (h : c.order call = .ok order) :
    ∃ text members, call.Asks (call.tenant? c.config.tenant) text members ∧
      order.body = Text.Utf8.encode text := by
  cases call with
  | evaluate subject resource action conditions =>
    obtain ⟨request, hbuilt, rfl⟩ := map_eq_ok_iff.1 h
    obtain ⟨htenant, hsubject, hresource, haction, hdetails⟩ := Request.of_make_withDetails hbuilt
    refine ⟨_, _, .evaluate hbuilt hsubject hresource haction hdetails, ?_⟩
    rw [body_accessOrder, htenant]
    rfl
  | evaluateRequest request =>
    obtain rfl := Except.ok.inj h
    exact ⟨_, _, .evaluateRequest request, c.body_accessOrder request⟩
  | evaluateCancellable request =>
    obtain rfl := Except.ok.inj h
    exact ⟨_, _, .evaluateCancellable request, c.body_accessOrder request⟩
  | simulate subject resource action context =>
    obtain ⟨request, hbuilt, rfl⟩ := map_eq_ok_iff.1 h
    obtain ⟨htenant, hsubject, hresource, haction, hdetails⟩ := Request.of_make_withDetails hbuilt
    refine ⟨_, _, .simulate hbuilt hsubject hresource haction hdetails, ?_⟩
    rw [body_simulationOrder, htenant]
    rfl
  | compile rule =>
    simp only [Client.order] at h
    split at h
    · exact absurd h (by simp)
    · obtain rfl := Except.ok.inj h
      exact ⟨_, _, .compile rule, rfl⟩
  | validatePolicy policy =>
    simp only [Client.order] at h
    split at h
    · exact absurd h (by simp)
    · obtain rfl := Except.ok.inj h
      exact ⟨_, _, .validatePolicy policy, rfl⟩

/-- A redirect keeps the body of a POST or goes on without one. -/
theorem body_redirected {body : Bytes} {r : Http.Request}
    (h : (r.method = .post ∧ r.body = body) ∨ (r.method = .get ∧ r.body = [])) (status : Nat)
    (target : Url) :
    ((r.redirected status target).method = .post ∧ (r.redirected status target).body = body) ∨
      ((r.redirected status target).method = .get ∧ (r.redirected status target).body = []) := by
  unfold Http.Request.redirected
  dsimp only
  split
  · exact h
  · exact Or.inr ⟨rfl, rfl⟩

/-- **The service is asked what the client was asked.** What a call sends first is a POST whose body
    is the text of what the call asks, on behalf of the tenant of the caller's request or else of
    the configured one: exactly its members, after that of the tenant, which is there if there is a
    tenant. If the numbers are whole and nothing nests deeper than a reader allows, these members
    are what is read off the body. A redirect carries the same body on or none. -/
theorem perform_body (c : Client) (call : Call) (s : Situation) (state : Cache.State) :
    (c.perform call s state).requests = [] ∨ ∃ first rest text members,
      (c.perform call s state).requests = first :: rest ∧
      call.Asks (call.tenant? c.config.tenant) text members ∧
      first.method = .post ∧ first.body = Text.Utf8.encode text ∧
      text = (Json.object (tenantMember (call.tenant? c.config.tenant) ++ members)).text ∧
      (∀ v, ("tenantID", v) ∈ tenantMember (call.tenant? c.config.tenant) ++ members ↔
        ∃ t, call.tenant? c.config.tenant = some t ∧ v = .string t) ∧
      (hasRealMembers members = false → nestingMembers members ≤ 126 → ∃ parsed,
        Json.read first.body = .ok (.object parsed) ∧
        parsed.Perm (tenantMember (call.tenant? c.config.tenant) ++ members)) ∧
      ∀ r ∈ rest, (r.method = .post ∧ r.body = first.body) ∨ (r.method = .get ∧ r.body = []) := by
  rcases c.requests_cases call s state with
    hnone | ⟨order, credential, first, rest, horder, -, hfirst, hall, hexchange⟩
  · exact Or.inl hnone
  obtain ⟨text, members, hasks, hbody⟩ := order_asks horder
  obtain ⟨url, basic, hvalue, -, -, hrequest⟩ := exists_requestTo hfirst
  have hpost : first.method = .post := by rw [hrequest]; rfl
  have hfirstBody : first.body = Text.Utf8.encode text := by rw [hrequest, ← hbody]; rfl
  refine Or.inr ⟨first, rest, text, members, hall, hasks, hpost, hfirstBody, hasks.text_eq,
    mem_tenantMember_iff _ hasks.nodup, ?_, ?_⟩
  · intro hreal hnesting
    obtain ⟨hparts, hdepth⟩ := parts_tenantMember (call.tenant? c.config.tenant) members
    obtain ⟨parsed, hread, -, hperm⟩ := read_object (hparts.trans hreal)
      (by rw [hdepth]; exact Nat.lt_succ_of_le (Nat.succ_le_succ hnesting)) hasks.canonical
      (nodup_tenantMember _ hasks.nodup)
    exact ⟨parsed, by rw [hfirstBody, hasks.text_eq, hread], hperm⟩
  · have hkept : ∀ r ∈ (Http.exchange s.network call.cancellable first).2,
        (r.method = .post ∧ r.body = first.body) ∨ (r.method = .get ∧ r.body = []) :=
      Http.exchange_forall (Or.inl ⟨hpost, rfl⟩) fun r status target h =>
        body_redirected h status target
    exact fun r hr => hkept r (hexchange ▸ List.mem_cons_of_mem _ hr)

end Client

end AccessDecision
