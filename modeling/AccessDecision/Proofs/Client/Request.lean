import AccessDecision.Client
import AccessDecision.Proofs.Http.Header
import AccessDecision.Proofs.Outcome
import AccessDecision.Proofs.Text.Base64url

set_option autoImplicit false

/-! # The request of a call

Every token that is signed and every correlation id can stand in a header, so whether a call has a
request is up to its URL alone, and the request is a POST to that URL with exactly the credential
that was issued (`authenticated_eq`). -/

namespace AccessDecision

open AccessDecision.Outcome Http

/-! ## Values of headers -/

theorem Http.isValue_append {s t : String} :
    isValue (s ++ t) = true ↔ isValue s = true ∧ isValue t = true := by
  simp only [isValue, String.toList_append, List.all_append, Bool.and_eq_true]

theorem Text.Base64url.isValue_symbol : ∀ v < 64, isValue (String.singleton (symbol v)) = true := by
  decide +kernel

theorem Text.Base64url.isValue_encode (bytes : Bytes) : isValue (encode bytes) = true := by
  rw [isValue, toList_encode, List.all_eq_true]
  intro s hs
  obtain ⟨v, hv, rfl⟩ := exists_of_mem_encodeChars hs
  simpa [isValue] using isValue_symbol v hv

theorem Text.Base64.isValue_symbol :
    ∀ v < 64, isValue (String.singleton (symbol (Base64url.symbol v))) = true := by
  decide +kernel

theorem Text.Base64.isValue_encode (bytes : Bytes) : isValue (encode bytes) = true := by
  rw [isValue, encode, String.toList_ofList, List.all_append, Bool.and_eq_true]
  constructor
  · rw [List.all_eq_true]
    intro s hs
    obtain ⟨s', hs', rfl⟩ := List.mem_map.1 hs
    obtain ⟨v, hv, rfl⟩ := Base64url.exists_of_mem_encodeChars hs'
    simpa [isValue] using isValue_symbol v hv
  · rw [List.all_eq_true]
    intro s hs
    rw [List.eq_of_mem_replicate hs]
    decide

theorem Credential.isValue_token (claims : Claims) (algorithm : Algorithm) (key : Bytes) :
    isValue (Credential.sign claims algorithm key).token = true := by
  have hdot : isValue "." = true := by decide
  simp only [Credential.sign, signingInput, segment, isValue_append, Text.Base64url.isValue_encode,
    hdot, and_self]

theorem Http.isValue_bearer {token : String} (h : isValue token = true) :
    isValue (bearer token) = true :=
  isValue_append.2 ⟨by decide, h⟩

theorem CorrelationId.isValue_symbols (count n : Nat) :
    ∀ s ∈ symbols count n, isValue (String.singleton s) = true := by
  have halphabet : ∀ d < 32, isValue (String.singleton (alphabet.getD d '0')) = true := by
    decide +kernel
  induction count generalizing n with
  | zero => simp [symbols]
  | succ count ih =>
    intro s hs
    rw [symbols, List.mem_append, List.mem_singleton] at hs
    rcases hs with hfront | rfl
    · exact ih _ s hfront
    · exact halphabet _ (Nat.mod_lt _ (by decide))

theorem CorrelationId.isValue_text (id : CorrelationId) : isValue id.text = true := by
  rw [isValue, text, String.toList_ofList, List.all_eq_true]
  intro s hs
  simpa [isValue] using isValue_symbols _ _ s hs

/-! ## Building the request -/

namespace Client

def contentTypeHeader : Http.Header :=
  ⟨"content-type", "application/json", by decide, by decide⟩

def tokenHeader {token : String} (h : isValue token = true) : Http.Header :=
  ⟨"authorization", bearer token, by decide, isValue_bearer h⟩

def correlationHeader (id : CorrelationId) : Http.Header :=
  ⟨"x-correlation-id", id.text, by decide, id.isValue_text⟩

/-- A header that is set here, given by name and value. -/
def ownHeader (field : String × String) : Except Failure Http.Header :=
  (Http.Header.of field.1 field.2).mapError fun _ => .unsendable none

/-- The header for the name and the password of a URL, if it has them. -/
def basicHeaders (url : Url) : Except Failure Headers :=
  ((userInfo? url).map fun (name, password) =>
    (authorizationName, basic name password)).toList.mapM ownHeader

/-- The request that carries a body and a token to a URL. -/
def requestTo (c : Client) (url : Url) (basic : Headers) (body : Bytes) {token : String}
    (h : isValue token = true) (correlation : CorrelationId) : Http.Request where
  method := .post
  url := if (userInfo? url).isSome then url.withoutUserInfo else url
  headers := Headers.complete
    (basic ++ [contentTypeHeader, tokenHeader h, correlationHeader correlation]) c.defaultHeaders
  body := body

variable {c : Client} {text token : String} {body : Bytes} {correlation : CorrelationId}

theorem ownHeader_eq_ok {name value : String} (hname : isName (Header.lowered name) = true)
    (hvalue : isValue value = true) :
    ownHeader (name, value) = .ok ⟨Header.lowered name, value, hname, hvalue⟩ := by
  rw [ownHeader, Header.of_eq_ok hname hvalue, mapError_ok]

theorem mapM_ownHeader (h : isValue token = true) (correlation : CorrelationId) :
    [(contentTypeName, "application/json"), (authorizationName, bearer token),
        (correlationName, correlation.text)].mapM ownHeader =
      .ok [contentTypeHeader, tokenHeader h, correlationHeader correlation] := by
  have hcontent : ownHeader (contentTypeName, "application/json") = .ok contentTypeHeader :=
    ownHeader_eq_ok (by decide) (by decide)
  have htoken : ownHeader (authorizationName, bearer token) = .ok (tokenHeader h) :=
    ownHeader_eq_ok (by decide) (isValue_bearer h)
  have hcorrelation : ownHeader (correlationName, correlation.text) =
      .ok (correlationHeader correlation) :=
    ownHeader_eq_ok (by decide) correlation.isValue_text
  simp only [List.mapM_cons, List.mapM_nil, hcontent, htoken, hcorrelation, ok_bind]
  rfl

/-- With a token that can stand in a header, only the URL decides whether there is a request. -/
theorem authenticated_eq (h : isValue token = true) :
    c.authenticated text body token correlation = (do
      let url ← (Url.read text).mapError fun _ => .unsendable none
      let basic ← basicHeaders url
      .ok (c.requestTo url basic body h correlation)) := by
  unfold authenticated
  cases Url.read text with
  | error e => rfl
  | ok url =>
    change (List.mapM ownHeader (_ ++ _) >>= _) = _
    rw [List.mapM_append, mapM_ownHeader h correlation]
    simp only [mapError_ok, ok_bind, bind_assoc, pure_bind]
    rfl

theorem failure_of_mapM_ownHeader {fields : List (String × String)} {failure : Failure}
    (h : fields.mapM ownHeader = .error failure) : failure = .unsendable none := by
  induction fields with
  | nil => exact absurd h (by simp [pure, Except.pure])
  | cons field fields ih =>
    simp only [List.mapM_cons, bind_eq_error_iff] at h
    rcases h with hfield | ⟨_, -, hrest | ⟨_, -, hpure⟩⟩
    · unfold ownHeader at hfield
      cases hof : Http.Header.of field.1 field.2 with
      | ok header => exact absurd (hof ▸ hfield) (by simp)
      | error fault => exact (Except.error.inj (hof ▸ hfield)).symm
    · exact ih hrest
    · exact absurd hpure (by simp [pure, Except.pure])

/-- A call without a request has no URL to name. -/
theorem failure_of_authenticated {failure : Failure}
    (h : c.authenticated text body token correlation = .error failure) :
    failure = .unsendable none := by
  unfold authenticated at h
  cases hread : Url.read text with
  | error e =>
    rw [hread] at h
    exact (Except.error.inj h).symm
  | ok url =>
    rw [hread] at h
    change (List.mapM ownHeader _ >>= _) = _ at h
    rcases bind_eq_error_iff.1 h with hown | ⟨own, -, hok⟩
    · exact failure_of_mapM_ownHeader hown
    · exact absurd hok (by simp)

/-! ## What the request says -/

theorem exists_of_mapM_ownHeader {fields : List (String × String)} {own : Headers}
    (h : fields.mapM ownHeader = .ok own) :
    ∀ field ∈ fields, ∃ header, ownHeader field = .ok header := by
  induction fields generalizing own with
  | nil => simp
  | cons first fields ih =>
    simp only [List.mapM_cons, bind_eq_ok_iff] at h
    obtain ⟨header, hheader, rest, hrest, -⟩ := h
    intro field hfield
    rcases List.mem_cons.1 hfield with rfl | hfield
    · exact ⟨header, hheader⟩
    · exact ih hrest field hfield

/-- A token that goes along can stand in a header. -/
theorem isValue_of_authenticated {request : Http.Request}
    (h : c.authenticated text body token correlation = .ok request) : isValue token = true := by
  unfold authenticated at h
  cases hread : Url.read text with
  | error e =>
    rw [hread] at h
    exact absurd h (by simp)
  | ok url =>
    rw [hread] at h
    obtain ⟨own, hown, -⟩ := bind_eq_ok_iff.1 h
    obtain ⟨header, hheader⟩ := exists_of_mapM_ownHeader hown (authorizationName, bearer token)
      (by simp)
    have hvalue := (Header.of_eq_ok_iff.1 (mapError_eq_ok_iff.1 hheader)).2
    exact (isValue_append.1 (hvalue ▸ header.isValue_value)).2

/-- Every request that is built is one that carries a body and a token to a URL. -/
theorem exists_requestTo {request : Http.Request}
    (h : c.authenticated text body token correlation = .ok request) :
    ∃ url basic, ∃ hvalue : isValue token = true, Url.read text = .ok url ∧
      basicHeaders url = .ok basic ∧ request = c.requestTo url basic body hvalue correlation := by
  have hvalue := isValue_of_authenticated h
  rw [authenticated_eq hvalue] at h
  obtain ⟨url, hurl, hrequest⟩ := bind_eq_ok_iff.1 h
  obtain ⟨basic, hbasic, hrequest⟩ := bind_eq_ok_iff.1 hrequest
  exact ⟨url, basic, hvalue, mapError_eq_ok_iff.1 hurl, hbasic, (Except.ok.inj hrequest).symm⟩

/-- Whatever the token, the request is a POST to the URL that was asked for; its name and password
    may go along as a header instead. -/
theorem request_of_authenticated {request : Http.Request}
    (h : c.authenticated text body token correlation = .ok request) :
    request.method = .post ∧ ∃ url, Url.read text = .ok url ∧
      request.url.withoutUserInfo = url.withoutUserInfo := by
  obtain ⟨url, basic, hvalue, hurl, -, rfl⟩ := exists_requestTo h
  refine ⟨rfl, url, hurl, ?_⟩
  rw [requestTo]
  split
  · rfl
  · rfl

theorem bearer_ne_basic (token name password : String) :
    bearer token ≠ Http.basic name password := by
  intro h
  have hsecond := congrArg (fun s => s.toList[1]?) h
  simp [bearer, Http.basic] at hsecond

/-- A URL has a header of its own exactly if it has a name and a password. -/
theorem basicHeaders_cases {url : Url} {basic : Headers} (hbasic : basicHeaders url = .ok basic) :
    (userInfo? url = none ∧ basic = []) ∨ ∃ name password header,
      userInfo? url = some (name, password) ∧ basic = [header] ∧
      header.name = "authorization" ∧ header.value = Http.basic name password := by
  unfold basicHeaders at hbasic
  cases hinfo : userInfo? url with
  | none =>
    rw [hinfo] at hbasic
    exact Or.inl ⟨rfl, (Except.ok.inj hbasic).symm⟩
  | some info =>
    simp only [hinfo, Option.map_some, Option.toList_some, List.mapM_cons, List.mapM_nil,
      bind_eq_ok_iff] at hbasic
    obtain ⟨header, hheader, rest, hnil, hbasic⟩ := hbasic
    obtain rfl : [] = rest := Except.ok.inj hnil
    obtain rfl : [header] = basic := Except.ok.inj hbasic
    obtain ⟨hname, hvalue⟩ := Header.of_eq_ok_iff.1 (mapError_eq_ok_iff.1 hheader)
    have hlowered : Header.lowered authorizationName = "authorization" := by decide
    exact Or.inr ⟨info.1, info.2, header, rfl, rfl, hname.trans hlowered, hvalue⟩

theorem values_basicHeaders {url : Url} {basic : Headers} (hbasic : basicHeaders url = .ok basic) :
    basic.values "authorization" =
      ((userInfo? url).map fun (name, password) => Http.basic name password).toList := by
  rcases basicHeaders_cases hbasic with
    ⟨hinfo, rfl⟩ | ⟨name, password, header, hinfo, rfl, hname, hvalue⟩
  · rw [hinfo]
    rfl
  · simp [hinfo, Headers.values, hname, hvalue]

theorem values_basicHeaders_of_ne {url : Url} {basic : Headers}
    (hbasic : basicHeaders url = .ok basic) {name : String} (hne : name ≠ "authorization") :
    basic.values name = [] := by
  rcases basicHeaders_cases hbasic with ⟨-, rfl⟩ | ⟨_, _, header, -, rfl, hname, -⟩
  · rfl
  · rw [Headers.values_cons_of_ne (by rw [hname]; exact hne.symm)]
    rfl

/-- The header of a name and a password holds no token. -/
theorem bearer_not_mem_basicHeaders {url : Url} {basic : Headers}
    (hbasic : basicHeaders url = .ok basic) (token : String) :
    bearer token ∉ basic.values "authorization" := by
  rw [values_basicHeaders hbasic]
  cases userInfo? url with
  | none => simp
  | some info => simpa using bearer_ne_basic token info.1 info.2

/-- Under a name that is set here the headers of the configuration add nothing. -/
theorem values_requestTo_of_own (url : Url) (basic : Headers) (h : isValue token = true)
    {name : String}
    (hown : Headers.has [contentTypeHeader, tokenHeader h, correlationHeader correlation] name =
      true) :
    (c.requestTo url basic body h correlation).headers.values name = basic.values name ++
      Headers.values [contentTypeHeader, tokenHeader h, correlationHeader correlation] name := by
  have hhas : Headers.has
      (basic ++ [contentTypeHeader, tokenHeader h, correlationHeader correlation]) name = true := by
    simp only [Headers.has, List.any_append, Bool.or_eq_true] at hown ⊢
    exact Or.inr hown
  rw [requestTo, Headers.values_complete_of_has hhas, Headers.values_append]

theorem values_requestTo (url : Url) (basic : Headers) (h : isValue token = true) :
    (c.requestTo url basic body h correlation).headers.values "authorization" =
      basic.values "authorization" ++ [bearer token] :=
  values_requestTo_of_own url basic h (by simp [Headers.has, tokenHeader])

end Client

end AccessDecision
