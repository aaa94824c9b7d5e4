import AccessDecision.Proofs.Client.Dispatch
import AccessDecision.Proofs.Client.Transparency
import AccessDecision.Proofs.Url.Join

set_option autoImplicit false

/-! # Where requests go

The URL of a service is put together as a text, from that of the endpoint, and is read again when a
request is built. What it means is known because a URL of the web is read from its text: the path of
the service follows that of the endpoint, provided that the endpoint ends with its path
(`Client.perform_location`). With a query or a fragment in the endpoint, the path of the service
becomes a part of these, and all operations reach one path (`Client.perform_one_path`). -/

namespace AccessDecision

open AccessDecision.Outcome

/-! ## One URL under another -/

/-- A URL that leads to where another one leads, with a segment behind the last of its parts. That
    part is its path, unless there is a query or a fragment. -/
structure Url.IsUnder (url endpoint : Url) (segment : List Char) : Prop where
  scheme : url.scheme = endpoint.scheme
  host : url.host = endpoint.host
  port : url.port = endpoint.port
  ends_path : endpoint.query = none → endpoint.fragment = none →
    url.path.chars = trimSlashes endpoint.path.chars ++ '/' :: segment ∧
      url.query = none ∧ url.fragment = none
  ends_query : ∀ query, endpoint.query = some query → endpoint.fragment = none →
    url.path = endpoint.path ∧ url.query = some (trimSlashes query ++ '/' :: segment) ∧
      url.fragment = none
  ends_fragment : ∀ fragment, endpoint.fragment = some fragment →
    url.path = endpoint.path ∧ url.query = endpoint.query ∧
      url.fragment = some (trimSlashes fragment ++ '/' :: segment)

namespace Url.IsUnder

variable {url url' endpoint : Url} {segment segment' : List Char}

theorem congr (h : url.IsUnder endpoint segment)
    (heq : url'.withoutUserInfo = url.withoutUserInfo) : url'.IsUnder endpoint segment := by
  cases url
  cases url'
  simp only [withoutUserInfo, mk.injEq, true_and] at heq
  obtain ⟨rfl, rfl, rfl, rfl, rfl, rfl⟩ := heq
  exact ⟨h.scheme, h.host, h.port, h.ends_path, h.ends_query, h.ends_fragment⟩

/-- Behind a path the segment can be told. -/
theorem segment_eq (h : url.IsUnder endpoint segment) (h' : url'.IsUnder endpoint segment')
    (hquery : endpoint.query = none) (hfragment : endpoint.fragment = none)
    (hpath : url.path.chars = url'.path.chars) : segment = segment' := by
  rw [(h.ends_path hquery hfragment).1, (h'.ends_path hquery hfragment).1] at hpath
  exact (List.cons.inj (List.append_cancel_left hpath)).2

/-- A query or a fragment keeps the segment from the path. -/
theorem path_eq (h : url.IsUnder endpoint segment)
    (hbehind : endpoint.query ≠ none ∨ endpoint.fragment ≠ none) : url.path = endpoint.path := by
  cases hfragment : endpoint.fragment with
  | some fragment => exact (h.ends_fragment fragment hfragment).1
  | none =>
    obtain ⟨query, hquery⟩ := Option.ne_none_iff_exists'.1
      (hbehind.resolve_right fun hne => hne hfragment)
    exact (h.ends_query query hquery hfragment).1

end Url.IsUnder

theorem Url.Normal.isUnder {u : Url} {port : UInt16} {host : Host} {items : List (List Char)}
    (h : u.Normal port host items) (segment : List Char) :
    (u.under segment).IsUnder u segment := by
  unfold Url.under
  split
  · rename_i hquery hfragment
    exact ⟨rfl, rfl, rfl, fun _ _ => ⟨h.chars_path_under segment, hquery, hfragment⟩,
      by simp [hquery], by simp [hfragment]⟩
  · rename_i query hquery hfragment
    exact ⟨rfl, rfl, rfl, by simp [hquery], by simp [hquery, hfragment], by simp [hfragment]⟩
  · rename_i fragment hfragment
    exact ⟨rfl, rfl, rfl, by simp [hfragment], by simp [hfragment], by simp [hfragment]⟩

namespace Client

open Url

variable {c : Client} {config : Config} {source : Source}

/-! ## The URL of a service -/

/-- The endpoint of a client is a URL of the web. -/
theorem normal_of_make (h : make config source = .ok c) :
    ∃ port host items, c.endpoint.Normal port host items := by
  obtain ⟨hendpoint, -⟩ := of_make h
  unfold Config.endpointUrl at hendpoint
  split at hendpoint
  · exact absurd hendpoint (by simp)
  · rename_i url hread
    split at hendpoint
    · rename_i hweb
      obtain rfl := Except.ok.inj hendpoint
      exact normal_of_read hread hweb
    · exact absurd hendpoint (by simp)

theorem isJoinable_path (service : Service) : IsJoinable service.path.toList := by
  cases service
  all_goals
    refine ⟨⟨?_, ?_, ?_, ?_, ?_⟩, ?_, ?_⟩
    all_goals decide

theorem Service.path_injective {service service' : Service}
    (h : service.path.toList = service'.path.toList) : service = service' := by
  cases service
  all_goals
    cases service'
    all_goals first | rfl | exact absurd h (by decide)

theorem urlFor_eq {port : UInt16} {host : Host} {items : List (List Char)}
    (h : c.endpoint.Normal port host items) (service : Service) :
    c.urlFor service = (c.endpoint.under service.path.toList).text := by
  apply String.toList_injective
  rw [urlFor, text, h.chars_under]
  simp [trimSlashes, List.rdropWhile]

/-- The URL of a service is read as what it was put together to be, if the domain of the endpoint
    can be converted once more. -/
theorem read_urlFor (hmake : make config source = .ok c) (service : Service) :
    Url.read (c.urlFor service) = .ok (c.endpoint.under service.path.toList) ∨
      ∃ ascii, c.endpoint.host = some (.domain ascii) ∧ Domain.convert? ascii = none ∧
        Url.read (c.urlFor service) = .error .invalidDomain := by
  obtain ⟨port, host, items, hnormal⟩ := normal_of_make hmake
  obtain ⟨items', hunder⟩ := hnormal.under (isJoinable_path service)
  rw [urlFor_eq hnormal, hunder.read_text]
  rcases Host.read_chars hnormal.host with hhost | ⟨ascii, hdomain, hconvert, hhost⟩
  · rw [hhost]
    refine Or.inl (congrArg Except.ok ?_)
    dsimp only
    rw [← hunder.host_eq]
  · rw [hhost]
    exact Or.inr ⟨ascii, hdomain ▸ hnormal.host_eq, hconvert, rfl⟩

theorem isUnder_of_read (hmake : make config source = .ok c) {service : Service} {url : Url}
    (h : Url.read (c.urlFor service) = .ok url) : url.IsUnder c.endpoint service.path.toList := by
  obtain ⟨port, host, items, hnormal⟩ := normal_of_make hmake
  rcases read_urlFor hmake service with hread | ⟨_, -, -, hread⟩
  · obtain rfl := Except.ok.inj (hread.symm.trans h)
    exact hnormal.isUnder _
  · exact absurd (hread.symm.trans h) (by simp)

/-! ## The requests of calls -/

variable {call : Call} {s : Situation} {state : Cache.State} {first : Http.Request}
  {rest : List Http.Request}

theorem isUnder_of_perform (hmake : make config source = .ok c)
    (h : (c.perform call s state).requests = first :: rest) :
    first.url.IsUnder c.endpoint call.service.path.toList := by
  rcases c.perform_requests call s state with
    hnone | ⟨first', rest', hall, ⟨-, url, hread, hurl⟩, -⟩
  · exact absurd (hnone.symm.trans h) (by simp)
  · obtain ⟨rfl, rfl⟩ := List.cons.inj (hall.symm.trans h)
    exact (isUnder_of_read hmake hread).congr hurl

/-- **Where requests go.** The URL of a service leads to the scheme, the host and the port of the
    endpoint, with the path of the service behind that of the endpoint, less the slashes at its end;
    only, if the endpoint has a query or a fragment, the path of the service stands behind these
    instead. A URL is read as this unless the domain of the endpoint cannot be converted once more.
    A call sends nothing or first a request to this URL, so different operations reach different
    paths under an endpoint that ends with its path, and all reach the path of the endpoint itself
    under one that does not. -/
theorem perform_location (hmake : make config source = .ok c) :
    (∀ service, (∃ url, Url.read (c.urlFor service) = .ok url ∧
        url.IsUnder c.endpoint service.path.toList) ∨
      ∃ ascii, c.endpoint.host = some (.domain ascii) ∧ Domain.convert? ascii = none ∧
        Url.read (c.urlFor service) = .error .invalidDomain) ∧
    (∀ call s state, (c.perform call s state).requests = [] ∨ ∃ first rest url,
      (c.perform call s state).requests = first :: rest ∧
        Url.read (c.urlFor call.service) = .ok url ∧
        first.url.withoutUserInfo = url.withoutUserInfo) ∧
    ∀ call call' s s' state state' first first' rest rest',
      (c.perform call s state).requests = first :: rest →
      (c.perform call' s' state').requests = first' :: rest' →
      (c.endpoint.query = none → c.endpoint.fragment = none →
        first.url.path.chars = first'.url.path.chars → call.service = call'.service) ∧
      (c.endpoint.query ≠ none ∨ c.endpoint.fragment ≠ none →
        first.url.path = c.endpoint.path ∧ first'.url.path = c.endpoint.path) := by
  refine ⟨fun service => ?_, fun call s state => ?_, ?_⟩
  · refine (read_urlFor hmake service).imp_left fun hread => ?_
    exact ⟨_, hread, isUnder_of_read hmake hread⟩
  · rcases c.perform_requests call s state with hnone | ⟨first, rest, hall, ⟨-, url, hurl⟩, -⟩
    · exact Or.inl hnone
    · exact Or.inr ⟨first, rest, url, hall, hurl⟩
  · intro call call' s s' state state' first first' rest rest' hall hall'
    have hunder := isUnder_of_perform hmake hall
    have hunder' := isUnder_of_perform hmake hall'
    constructor
    · intro hquery hfragment hpath
      exact Service.path_injective (hunder.segment_eq hunder' hquery hfragment hpath)
    · exact fun hbehind => ⟨hunder.path_eq hbehind, hunder'.path_eq hbehind⟩

/-- An endpoint with capitals in its host, a port, a step to the parent and two slashes at its
    end. -/
theorem perform_location_of_steps_and_slashes :
    let config : Config := ⟨"http://Authz.Example.com:8080/v1/../v2//", none, some 30, []⟩
    let source : Source := .issuer ⟨⟨"svc", "secret"⟩, .hs256, none⟩
    ∃ c url, make config source = .ok c ∧ Url.read (c.urlFor .compile) = .ok url ∧
      url.IsUnder c.endpoint "compile".toList ∧ url.path.chars = "/v2/compile".toList := by
  intro config source
  let endpoint : Url := ⟨"http".toList, [], [], some (.domain "authz.example.com".toList),
    some 8080, .segments ["v2".toList, [], []], none, none⟩
  let c : Client := ⟨config, endpoint, [], source⟩
  have hmake : make config source = .ok c := by
    have hendpoint : config.endpointUrl = .ok endpoint := by decide +kernel
    rw [make, hendpoint]
    rfl
  rcases (perform_location hmake).1 .compile with
    ⟨url, hread, hunder⟩ | ⟨ascii, hhost, hconvert, -⟩
  · refine ⟨c, url, hmake, hread, hunder, ?_⟩
    rw [(hunder.ends_path rfl rfl).1]
    decide
  · obtain rfl : "authz.example.com".toList = ascii := by simpa [c, endpoint] using hhost
    exact absurd hconvert (by decide +kernel)

/-! ## Behind a query -/

/-- A call that is valid sends one request to where its URL leads. -/
theorem exists_request_of_answered {url : Url} {entropy : Entropy}
    (hidentity : c.source.base.identity.validate = .ok ()) (hcall : call.Valid)
    (h : c.Answered call s url) :
    ∃ first, (c.perform call s ⟨none, entropy⟩).requests = [first] ∧ first.url = url := by
  obtain ⟨order, horder⟩ := exists_order_iff.2 hcall
  obtain ⟨minted, nonce, log, after, hissue, -⟩ :=
    (c.source.sound_of_nothing_held entropy).issue_of_valid hidentity s.now
  have htoken : Http.isValue (c.source.base.sign minted nonce).token = true :=
    Credential.isValue_token ..
  exact ⟨_, h.requests_perform horder hissue htoken, h.url_requestTo htoken⟩

/-- The endpoint has a query. To compile a rule and to check a policy are asked at one path, which
    is neither that of the one service nor of the other. -/
theorem perform_one_path :
    let config : Config := ⟨"http://authz.example.com/?v=1", none, some 30, []⟩
    let source : Source := .issuer ⟨⟨"svc", "secret"⟩, .hs256, none⟩
    let network : Http.Network := fun _ =>
      ⟨.answered ⟨200, [], .whole (Text.Utf8.encode "permit")⟩, false⟩
    let s : Situation := ⟨.epoch, ⟨0⟩, network, false⟩
    let state : Cache.State := ⟨none, .countingFrom 0⟩
    ∃ c first first', make config source = .ok c ∧
      (c.perform (.compile "admins may read") s state).requests = [first] ∧
      (c.perform (.validatePolicy "permit") s state).requests = [first'] ∧
      first.url.path.chars = "/".toList ∧ first'.url.path.chars = "/".toList ∧
      first.url.query = some "v=1/compile".toList := by
  intro config source network s state
  let location (query : String) : Url := ⟨"http".toList, [], [],
    some (.domain "authz.example.com".toList), none, .segments [[]], some query.toList, none⟩
  let c : Client := ⟨config, location "v=1", [], source⟩
  have hmake : make config source = .ok c := by
    have hendpoint : config.endpointUrl = .ok (location "v=1") := by decide +kernel
    rw [make, hendpoint]
    rfl
  have hidentity : c.source.base.identity.validate = .ok () := by decide +kernel
  have hread : Url.read (c.urlFor .compile) = .ok (location "v=1/compile") := by decide +kernel
  have hread' : Url.read (c.urlFor .validatePolicy) = .ok (location "v=1/validate-policy") := by
    decide +kernel
  have hvalid : (Call.compile "admins may read").Valid := by
    rw [Call.Valid]
    decide
  have hvalid' : (Call.validatePolicy "permit").Valid := by
    rw [Call.Valid]
    decide
  obtain ⟨first, hrequests, hurl⟩ : ∃ first, (c.perform (.compile "admins may read") s
      state).requests = [first] ∧ first.url = location "v=1/compile" :=
    exists_request_of_answered hidentity hvalid
      ⟨rfl, hread, rfl, by decide, _, rfl, fun _ => rfl⟩
  obtain ⟨first', hrequests', hurl'⟩ : ∃ first, (c.perform (.validatePolicy "permit") s
      state).requests = [first] ∧ first.url = location "v=1/validate-policy" :=
    exists_request_of_answered hidentity hvalid'
      ⟨rfl, hread', rfl, by decide, _, rfl, fun _ => rfl⟩
  refine ⟨c, first, first', hmake, hrequests, hrequests', ?_, ?_, ?_⟩
  · rw [hurl]
    rfl
  · rw [hurl']
    rfl
  · rw [hurl]

end Client

end AccessDecision
