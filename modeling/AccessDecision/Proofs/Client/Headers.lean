import AccessDecision.Proofs.Client.Location

set_option autoImplicit false

/-! # What becomes of configured headers

A client keeps every header of its configuration, in order and with every value
(`Client.values_headers_of_make`). They go along as headers that are set one after the other, so of
several values of one name only the last one arrives, wherever and in whatever case the name was
written (`Client.perform_configured_headers`, `Client.perform_drops_repeated_header`). -/

namespace AccessDecision

open AccessDecision.Outcome

/-- The values that a configuration gives for a header, in their order and in whatever case the name
    is written. -/
def Config.headerValues (config : Config) (name : String) : List String :=
  (config.headers.filter fun pair => Http.Header.lowered pair.1 = Http.Header.lowered name).map
    Prod.snd

/-- Names of headers that every call sets itself. -/
def Client.ownNames : List String := ["authorization", "content-type", "x-correlation-id"]

/-- Names of headers that belong to the connection and not to the call. -/
def Http.transportNames : List String :=
  ["host", "content-length", "transfer-encoding", "connection"]

namespace Client

variable {c : Client} {source : Source} {config : Config} {call : Call} {s : Situation}
  {state : Cache.State} {name : String}

/-! ## The headers that a client has -/

theorem values_of_mapM_header {pairs : List (String × String)} {headers : Http.Headers}
    (h : pairs.mapM (fun (name, value) => Config.header name value) = .ok headers)
    (name : String) :
    headers.values name = (pairs.filter fun pair => Http.Header.lowered pair.1 = name).map
      Prod.snd := by
  induction pairs generalizing headers with
  | nil =>
    obtain rfl : [] = headers := Except.ok.inj h
    rfl
  | cons pair pairs ih =>
    simp only [List.mapM_cons, bind_eq_ok_iff] at h
    obtain ⟨header, hheader, rest, hrest, hheaders⟩ := h
    obtain rfl : header :: rest = headers := Except.ok.inj hheaders
    obtain ⟨hname, hvalue⟩ := Http.Header.of_eq_ok_iff.1 (mapError_eq_ok_iff.1 hheader)
    by_cases hsame : Http.Header.lowered pair.1 = name
    · rw [Http.Headers.values_cons_of_eq (hname.trans hsame), ih hrest, hvalue]
      simp [hsame]
    · rw [Http.Headers.values_cons_of_ne (by rw [hname]; exact hsame), ih hrest]
      simp [hsame]

theorem values_headers_of_make (h : make config source = .ok c) (name : String) :
    c.headers.values (Http.Header.lowered name) = config.headerValues name := by
  unfold make at h
  simp only [bind_eq_ok_iff] at h
  obtain ⟨endpoint, -, headers, hheaders, hclient⟩ := h
  split at hclient
  · exact absurd hclient (by simp)
  · obtain rfl := Except.ok.inj hclient
    exact values_of_mapM_header hheaders _

/-! ## The headers that go along -/

/-- Before the configuration is looked at, any content may come back. -/
theorem values_accept : Http.Headers.values (Http.Header.of "accept" "*/*").toOption.toList name =
    (if name = "accept" then some "*/*" else none).toList := by
  have hof : Http.Header.of "accept" "*/*" = .ok ⟨"accept", "*/*", by decide, by decide⟩ :=
    Http.Header.of_eq_ok_iff.2 ⟨by decide, rfl⟩
  rw [hof]
  by_cases hname : name = "accept"
  · rw [if_pos hname, hname]
    rfl
  · rw [if_neg hname]
    exact Http.Headers.values_cons_of_ne (Ne.symm hname)

/-- Of several values of one name the last one is left. -/
theorem values_defaultHeaders : c.defaultHeaders.values name =
    ((c.headers.values name).getLast?.or
      (if name = "accept" then some "*/*" else none)).toList := by
  rw [defaultHeaders, Http.Headers.values_foldl_set, values_accept]
  cases (c.headers.values name).getLast? <;> rfl

/-- Under a name that is not set here the request has what goes along with every request. -/
theorem values_requestTo_of_not_own {url : Url} {basic : Http.Headers} {body : Bytes}
    {token : String} {correlation : CorrelationId} (hbasic : basicHeaders url = .ok basic)
    (h : Http.isValue token = true) (hname : name ∉ ownNames) :
    (c.requestTo url basic body h correlation).headers.values name =
      c.defaultHeaders.values name := by
  simp only [ownNames, List.mem_cons, List.not_mem_nil, or_false, not_or] at hname
  obtain ⟨hauthorization, hcontent, hcorrelation⟩ := hname
  refine Http.Headers.values_complete_of_not_has (Http.Headers.values_eq_nil_iff.1 ?_)
  rw [Http.Headers.values_append, values_basicHeaders_of_ne hbasic hauthorization,
    List.nil_append, Http.Headers.values_cons_of_ne (Ne.symm hcontent),
    Http.Headers.values_cons_of_ne (Ne.symm hauthorization),
    Http.Headers.values_cons_of_ne (Ne.symm hcorrelation)]
  rfl

/-- What a call sends first is a POST, with what goes along with every request. -/
theorem values_of_requests {first : Http.Request} {rest : List Http.Request}
    (h : (c.perform call s state).requests = first :: rest) :
    first.method = .post ∧
      ∀ name, name ∉ ownNames → first.headers.values name = c.defaultHeaders.values name := by
  rcases c.requests_cases call s state with
    hnone | ⟨order, credential, request, others, -, -, hrequest, hall, -⟩
  · exact absurd (hnone.symm.trans h) (by simp)
  obtain ⟨rfl, rfl⟩ := List.cons.inj (hall.symm.trans h)
  obtain ⟨url, basic, hvalue, -, hbasic, rfl⟩ := exists_requestTo hrequest
  exact ⟨rfl, fun name hname => values_requestTo_of_not_own hbasic hvalue hname⟩

/-! ## Configured headers -/

theorem toList_getLast?_eq_self_iff {α : Type} {l : List α} (h : l ≠ []) :
    l.getLast?.toList = l ↔ l.length = 1 := by
  rw [List.getLast?_eq_some_getLast h, Option.toList_some]
  constructor
  · intro heq
    rw [← heq, List.length_singleton]
  · intro hlength
    obtain ⟨a, rfl⟩ := List.length_eq_one_iff.1 hlength
    rfl

/-- **Configured headers.** The POST of a call carries under every name that the call and the
    connection leave to the configuration the last value that the configuration gives for it, in
    whatever case, and nothing else; only `accept` has a value of its own if the configuration gives
    none. So what is configured arrives as it is exactly if its name is configured once. -/
theorem perform_configured_headers (hmake : make config source = .ok c) (call : Call)
    (s : Situation) (state : Cache.State) :
    (c.perform call s state).requests = [] ∨ ∃ first rest,
      (c.perform call s state).requests = first :: rest ∧ first.method = .post ∧
      ∀ name, Http.Header.lowered name ∉ ownNames ++ Http.transportNames →
        first.headers.values (Http.Header.lowered name) =
            ((config.headerValues name).getLast?.or
              (if Http.Header.lowered name = "accept" then some "*/*" else none)).toList ∧
          (config.headerValues name ≠ [] →
            (first.headers.values (Http.Header.lowered name) = config.headerValues name ↔
              (config.headerValues name).length = 1)) := by
  cases hrequests : (c.perform call s state).requests with
  | nil => exact Or.inl rfl
  | cons first rest =>
    obtain ⟨hpost, hvalues⟩ := values_of_requests hrequests
    refine Or.inr ⟨first, rest, rfl, hpost, ?_⟩
    intro name hname
    have hcarried : first.headers.values (Http.Header.lowered name) =
        ((config.headerValues name).getLast?.or
          (if Http.Header.lowered name = "accept" then some "*/*" else none)).toList := by
      rw [hvalues _ fun hown => hname (List.mem_append_left _ hown), values_defaultHeaders,
        values_headers_of_make hmake]
    refine ⟨hcarried, ?_⟩
    intro hconfigured
    rw [hcarried, List.getLast?_eq_some_getLast hconfigured, Option.some_or,
      ← List.getLast?_eq_some_getLast hconfigured, toList_getLast?_eq_self_iff hconfigured]

/-! ### A name in two letter cases -/

/-- A configuration that gives two values for one header, and one for another between them. -/
def taggedConfig : Config :=
  ⟨"http://authz.example.com", none, some 30,
    [("X-Tag", "a"), ("X-Team", "core"), ("x-tag", "b")]⟩

def taggedSource : Source := .issuer ⟨⟨"svc", "secret"⟩, .hs256, none⟩

/-- A service that answers at once. -/
def answering : Situation :=
  ⟨.epoch, ⟨0⟩, fun _ => ⟨.answered ⟨200, [], .whole (Text.Utf8.encode "permit")⟩, false⟩, false⟩

theorem exists_tagged_request : ∃ c first, make taggedConfig taggedSource = .ok c ∧
    (c.perform (.compile "admins may read") answering ⟨none, .countingFrom 0⟩).requests =
      [first] := by
  let location (path : String) : Url := ⟨"http".toList, [], [],
    some (.domain "authz.example.com".toList), none, .segments [path.toList], none, none⟩
  let c : Client := ⟨taggedConfig, location "",
    [⟨"x-tag", "a", by decide, by decide⟩, ⟨"x-team", "core", by decide, by decide⟩,
      ⟨"x-tag", "b", by decide, by decide⟩], taggedSource⟩
  have hmake : make taggedConfig taggedSource = .ok c := by
    have hendpoint : taggedConfig.endpointUrl = .ok (location "") := by decide +kernel
    rw [make, hendpoint]
    rfl
  have hidentity : c.source.base.identity.validate = .ok () := by decide +kernel
  have hread : Url.read (c.urlFor .compile) = .ok (location "compile") := by decide +kernel
  have hvalid : (Call.compile "admins may read").Valid := by
    rw [Call.Valid]
    decide
  obtain ⟨first, hrequests, -⟩ : ∃ first, (c.perform (.compile "admins may read") answering
      ⟨none, .countingFrom 0⟩).requests = [first] ∧ first.url = location "compile" :=
    exists_request_of_answered hidentity hvalid
      ⟨rfl, hread, rfl, by decide, _, rfl, fun _ => rfl⟩
  exact ⟨c, first, hmake, hrequests⟩

/-- The header that is configured once arrives, and any content may come back. -/
theorem perform_configured_headers_of_team : ∃ c first,
    make taggedConfig taggedSource = .ok c ∧
      (c.perform (.compile "admins may read") answering ⟨none, .countingFrom 0⟩).requests =
        [first] ∧
      first.headers.values (Http.Header.lowered "X-TEAM") = taggedConfig.headerValues "X-TEAM" ∧
      taggedConfig.headerValues "X-TEAM" = ["core"] ∧
      first.headers.values (Http.Header.lowered "Accept") = ["*/*"] := by
  obtain ⟨c, first, hmake, hrequests⟩ := exists_tagged_request
  rcases perform_configured_headers hmake (.compile "admins may read") answering
    ⟨none, .countingFrom 0⟩ with hnone | ⟨request, rest, hall, -, hvalues⟩
  · exact absurd (hrequests.symm.trans hnone) (by simp)
  obtain ⟨rfl, -⟩ := List.cons.inj (hrequests.symm.trans hall)
  refine ⟨c, first, hmake, hrequests, ?_, by decide, ?_⟩
  · exact ((hvalues "X-TEAM" (by decide)).2 (by decide)).2 (by decide)
  · exact (hvalues "Accept" (by decide)).1

/-- Of the two values of the other header only the second one arrives. -/
theorem perform_drops_repeated_header : ∃ c first,
    make taggedConfig taggedSource = .ok c ∧
      (c.perform (.compile "admins may read") answering ⟨none, .countingFrom 0⟩).requests =
        [first] ∧
      taggedConfig.headerValues "X-Tag" = ["a", "b"] ∧
      first.headers.values (Http.Header.lowered "X-Tag") = ["b"] := by
  obtain ⟨c, first, hmake, hrequests⟩ := exists_tagged_request
  refine ⟨c, first, hmake, hrequests, by decide, ?_⟩
  rw [(values_of_requests hrequests).2 _ (by decide), values_defaultHeaders,
    values_headers_of_make hmake]
  decide

end Client

end AccessDecision
