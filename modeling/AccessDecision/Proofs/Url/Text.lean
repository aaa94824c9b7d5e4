import AccessDecision.Http.Exchange
import AccessDecision.Proofs.Text.Decimal
import AccessDecision.Proofs.Url.Host
import AccessDecision.Proofs.Url.Path

set_option autoImplicit false

/-! # URLs of the web are read from their text

A URL that was read is in normal form (`Url.normal_of_read`): each of its parts is written in the
characters that the part may hold, so nothing in it is taken for the start of the next one. Hence
the parts are found again in the text of a URL in normal form, and it is read as itself if its host
is (`Url.read_text`). -/

namespace AccessDecision.Url

open Outcome Percent

variable {u : Url} {cs rest : List Char} {c mark : Char} {part : Option (List Char)}
  {host : Host} {port : UInt16}

/-! ## Normal form -/

/-- A URL of the web as it is read. -/
structure Normal (u : Url) (defaultPort : UInt16) (host : Host) (items : List (List Char)) :
    Prop where
  scheme : (u.scheme = "http".toList ∧ defaultPort = 80) ∨
    (u.scheme = "https".toList ∧ defaultPort = 443)
  username : Plain Percent.userInfo u.username
  password : Plain Percent.userInfo u.password
  host_eq : u.host = some host
  host : host.Normal
  port : u.port ≠ some defaultPort
  path_eq : u.path = .segments items
  items_ne : items ≠ []
  items : ∀ item ∈ items, IsSegment item
  query : ∀ query ∈ u.query, Plain Percent.webQuery query
  fragment : ∀ fragment ∈ u.fragment, Plain Percent.fragment fragment

theorem Normal.withoutUserInfo {items : List (List Char)} (h : u.Normal port host items) :
    u.withoutUserInfo.Normal port host items :=
  { h with
    username := fun _ hc => absurd hc (List.not_mem_nil)
    password := fun _ hc => absurd hc (List.not_mem_nil) }

/-! ## Cutting -/

theorem breakAt_append {isMark : Char → Bool} (h : ∀ c ∈ cs, isMark c = false) :
    Text.breakAt isMark (cs ++ rest) =
      (cs ++ (Text.breakAt isMark rest).1, (Text.breakAt isMark rest).2) := by
  induction cs with
  | nil => rfl
  | cons c cs ih =>
    obtain ⟨hc, hcs⟩ := List.forall_mem_cons.1 h
    rw [List.cons_append, Text.breakAt, if_neg (by simp [hc]), ih hcs]
    rfl

theorem forall_ne (h : mark ∉ cs) : ∀ c ∈ cs, decide (c = mark) = false := by
  intro c hc
  rw [decide_eq_false_iff_not]
  rintro rfl
  exact h hc

/-- A part ends at the mark of the next one. -/
theorem breakAt_marked (h : mark ∉ cs) (part : Option (List Char)) :
    Text.breakAt (· = mark) (cs ++ marked mark part) = (cs, part) := by
  rw [breakAt_append (forall_ne h)]
  cases part with
  | none => simp [marked, Text.breakAt]
  | some part => simp [marked, Text.breakAt]

/-- Nothing is cleaned off a text that shows. -/
theorem clean_ofList (h : ∀ c ∈ cs, 0x20 < c.toNat) : clean (String.ofList cs) = cs := by
  have hmargin : ∀ c ∈ cs, decide (c ≤ ' ') = false := by
    intro c hc
    rw [decide_eq_false_iff_not, Char.le_def, UInt32.le_iff_toNat_le]
    exact Nat.not_le_of_lt (h c hc)
  have hdrop {ds : List Char} (hds : ∀ c ∈ ds, decide (c ≤ ' ') = false) :
      ds.dropWhile (fun c => decide (c ≤ ' ')) = ds := by
    cases ds with
    | nil => rfl
    | cons c ds => rw [List.dropWhile_cons, if_neg (by simp [hds c (List.mem_cons_self ..)])]
  have hkept : cs.filter (fun c => c ≠ '\t' && c ≠ '\n' && c ≠ '\r') = cs := by
    refine List.filter_eq_self.2 fun c hc => ?_
    have hlow := h c hc
    simp only [Bool.and_eq_true, decide_eq_true_eq]
    refine ⟨⟨?_, ?_⟩, ?_⟩
    all_goals
      rintro rfl
      exact absurd hlow (by decide)
  unfold clean
  dsimp only
  rw [String.toList_ofList, hdrop hmargin, hdrop (fun c hc => hmargin c (List.mem_reverse.1 hc)),
    List.reverse_reverse, hkept]

/-- The last `@` ends the name and the password. -/
theorem splitAtLastAt_append (h : '@' ∉ rest) :
    splitAtLastAt (cs ++ '@' :: rest) = (some cs, rest) := by
  have hrest := forall_ne (mt List.mem_reverse.1 h)
  rw [splitAtLastAt, List.reverse_append, List.reverse_cons, List.append_assoc,
    breakAt_append hrest]
  simp [Text.breakAt]

theorem splitAtLastAt_of_not_mem (h : '@' ∉ rest) : splitAtLastAt rest = (none, rest) := by
  have hrest := forall_ne (mt List.mem_reverse.1 h)
  rw [splitAtLastAt, ← List.append_nil rest.reverse, breakAt_append hrest]
  simp [Text.breakAt]

/-! ## The host and the port -/

/-- Outside brackets the host ends at a colon. -/
theorem splitPort_append (h : ∀ c ∈ cs, c ≠ ':' ∧ c ≠ '[') :
    splitPort false (cs ++ rest) = (cs ++ (splitPort false rest).1, (splitPort false rest).2) := by
  induction cs with
  | nil => rfl
  | cons c cs ih =>
    obtain ⟨⟨hcolon, hbracket⟩, hcs⟩ := List.forall_mem_cons.1 h
    rw [List.cons_append, splitPort, if_neg (by simp [hcolon])]
    simp only [hbracket, decide_false, Bool.false_and, Bool.or_false, ih hcs]
    rfl

/-- Within brackets it does not. -/
theorem splitPort_bracketed (h : ∀ c ∈ cs, c ≠ '[' ∧ c ≠ ']') :
    splitPort true (cs ++ ']' :: rest) =
      (cs ++ ']' :: (splitPort false rest).1, (splitPort false rest).2) := by
  induction cs with
  | nil =>
    rw [List.nil_append, splitPort, if_neg (by simp)]
    rfl
  | cons c cs ih =>
    obtain ⟨⟨hopen, hclose⟩, hcs⟩ := List.forall_mem_cons.1 h
    rw [List.cons_append, splitPort, if_neg (by simp)]
    simp only [hopen, hclose, decide_false, Bool.false_or, Bool.true_and, ne_eq, not_false_eq_true,
      decide_true, ih hcs]
    rfl

/-- The whole of a host is found again. -/
theorem splitPort_chars (h : host.Normal) (rest : List Char) :
    splitPort false (host.chars ++ rest) =
      (host.chars ++ (splitPort false rest).1, (splitPort false rest).2) := by
  by_cases haddress : ∀ address, host ≠ .ipv6 address
  · refine splitPort_append fun c hc => ?_
    have hforbidden := Host.isForbidden_of_mem h haddress hc
    constructor
    all_goals
      rintro rfl
      exact absurd hforbidden (by decide)
  · obtain ⟨address, rfl⟩ := not_forall_not.1 haddress
    have hinside : ∀ c ∈ address.chars, c ≠ '[' ∧ c ≠ ']' := by
      intro c hc
      have hbrackets := (Host.of_mem_ipv6 hc).2.2
      simpa using hbrackets
    rw [Host.chars, List.cons_append, List.cons_append, List.append_assoc, List.singleton_append,
      splitPort, if_neg (by simp)]
    simp only [decide_true, Bool.true_or, splitPort_bracketed hinside, List.append_assoc,
      List.cons_append, List.nil_append]

/-- The digits of the port. -/
def portChars (u : Url) : Option (List Char) := u.port.map fun port => Text.natChars port.toNat

theorem hostChars_eq (h : u.host = some host) :
    u.hostChars = host.chars ++ marked ':' u.portChars := by
  rw [hostChars, h, portChars]
  cases u.port with
  | none => rfl
  | some port => rfl

theorem splitPort_marked (part : Option (List Char)) :
    splitPort false (marked ':' part) = ([], part) := by
  cases part with
  | none => rfl
  | some part => rfl

theorem readPort_portChars (h : u.port ≠ some port) :
    readPort (some port) (u.portChars.getD []) = .ok u.port := by
  rw [portChars]
  cases hport : u.port with
  | none => rfl
  | some other =>
    have hne : other ≠ port := fun heq => h (hport.trans (congrArg some heq))
    have hdigits : (Text.natChars other.toNat).isEmpty = false := by
      simpa using Ipv4.natChars_ne_nil other.toNat
    rw [Option.map_some, Option.getD_some, readPort,
      Text.readDigits_natChars other.toNat_lt]
    simp [hdigits, hne]

/-! ## What the parts hold -/

/-- A text that shows and holds none of some marks. -/
def Clear (marks cs : List Char) : Prop := ∀ c ∈ cs, 0x20 < c.toNat ∧ c ∉ marks

namespace Clear

variable {marks : List Char} {ds : List Char}

theorem append (h : Clear marks cs) (h' : Clear marks ds) : Clear marks (cs ++ ds) := by
  intro c hc
  rcases List.mem_append.1 hc with hc | hc
  · exact h c hc
  · exact h' c hc

theorem cons (hc : 0x20 < c.toNat ∧ c ∉ marks) (h : Clear marks cs) : Clear marks (c :: cs) :=
  List.forall_mem_cons.2 ⟨hc, h⟩

theorem not_mem (h : Clear marks cs) (hmark : mark ∈ marks) : mark ∉ cs :=
  fun hmem => (h mark hmem).2 hmark

theorem mono {fewer : List Char} (h : Clear marks cs) (hsub : fewer ⊆ marks) : Clear fewer cs :=
  fun c hc => ⟨(h c hc).1, fun hmem => (h c hc).2 (hsub hmem)⟩

theorem of_plain {set : EncodeSet} (h : Plain set cs) (hset : Stable set)
    (hmarks : marks.all set = true) : Clear marks cs := by
  intro c hc
  refine ⟨h.shows hset c hc, fun hmem => ?_⟩
  exact h.not_mem (List.all_eq_true.1 hmarks c hmem) hc

theorem marked {part : Option (List Char)} (hmark : 0x20 < mark.toNat ∧ mark ∉ marks)
    (h : ∀ text ∈ part, Clear marks text) : Clear marks (Url.marked mark part) := by
  cases part with
  | none => exact fun c hc => absurd hc (by simp [Url.marked])
  | some text => exact cons hmark (h text rfl)

end Clear

section Parts

variable {items : List (List Char)}

theorem Normal.clear_userInfo (h : u.Normal port host items) :
    Clear ['/', '\\', '?', '#'] u.userInfoChars := by
  have hname : Clear ['/', '\\', '?', '#'] u.username :=
    .of_plain h.username stable_userInfo (by decide)
  have hpassword : Clear ['/', '\\', '?', '#'] u.password :=
    .of_plain h.password stable_userInfo (by decide)
  have hnone : Clear ['/', '\\', '?', '#'] [] := fun c hc => absurd hc (by simp)
  rw [userInfoChars]
  split
  · exact hnone
  · refine .append (.append hname ?_) (.cons (by decide) hnone)
    split
    · exact hnone
    · exact .cons (by decide) hpassword

theorem Normal.clear_host (h : u.Normal port host items) : Clear Host.ends u.hostChars := by
  rw [hostChars_eq h.host_eq]
  refine .append (fun c hc => Host.of_mem_chars h.host hc) (.marked (by decide) ?_)
  intro digits hdigits c hc
  obtain ⟨port, -, rfl⟩ := Option.map_eq_some_iff.1 hdigits
  have hdigit := Json.isDigit_of_mem_natChars hc
  refine ⟨by omega, fun hmem => ?_⟩
  have hends : Host.ends.all (fun c => decide (c.toNat < 0x30 ∨ 0x39 < c.toNat)) = true := by
    decide
  have hother := of_decide_eq_true (List.all_eq_true.1 hends c hmem)
  omega

theorem Normal.clear_path (h : u.Normal port host items) : Clear ['?', '#'] u.path.chars := by
  rw [h.path_eq, Path.chars]
  intro c hc
  obtain ⟨item, hitem, hc⟩ := List.mem_flatMap.1 hc
  rcases List.mem_cons.1 hc with rfl | hc
  · decide
  · exact Clear.of_plain (h.items item hitem).plain stable_path (by decide) c hc

theorem Normal.clear_query (h : u.Normal port host items) : Clear ['#'] (marked '?' u.query) :=
  .marked (by decide) fun text htext => .of_plain (h.query text htext) stable_webQuery (by decide)

theorem Normal.clear_fragment (h : u.Normal port host items) : Clear [] (marked '#' u.fragment) :=
  .marked (by decide) fun text htext =>
    .of_plain (h.fragment text htext) stable_fragment (by simp)

theorem Normal.clear_authority (h : u.Normal port host items) :
    Clear ['/', '\\', '?', '#'] (u.userInfoChars ++ u.hostChars) :=
  .append h.clear_userInfo (h.clear_host.mono (by decide))

/-! ## Finding the parts again -/

/-- What stands before the query. -/
theorem Normal.chars_eq (h : u.Normal port host items) :
    u.chars = u.scheme ++ ':' :: ('/' :: '/' :: (u.userInfoChars ++ u.hostChars) ++ u.path.chars ++
      marked '?' u.query ++ marked '#' u.fragment) := by
  rw [chars, authorityChars, h.host_eq]
  simp

theorem Normal.clear_chars (h : u.Normal port host items) : ∀ c ∈ u.chars, 0x20 < c.toNat := by
  have hscheme : ∀ c ∈ u.scheme, 0x20 < c.toNat := by
    rcases h.scheme with ⟨hscheme, -⟩ | ⟨hscheme, -⟩
    all_goals
      rw [hscheme]
      simp
  have hrest : Clear [] ('/' :: '/' :: (u.userInfoChars ++ u.hostChars) ++ u.path.chars ++
      marked '?' u.query ++ marked '#' u.fragment) := by
    refine .append (.append (.append ?_ (h.clear_path.mono (by simp)))
      (h.clear_query.mono (by simp))) h.clear_fragment
    exact .cons (by decide) (.cons (by decide) (h.clear_authority.mono (by simp)))
  rw [h.chars_eq]
  intro c hc
  rcases List.mem_append.1 hc with hc | hc
  · exact hscheme c hc
  · rcases List.mem_cons.1 hc with rfl | hc
    · decide
    · exact (hrest c hc).1

/-- The scheme ends at the first colon. -/
theorem Normal.splitScheme?_eq (h : u.Normal port host items) (rest : List Char) :
    splitScheme? (u.scheme ++ ':' :: rest) = some (u.scheme, rest) := by
  rcases h.scheme with ⟨hscheme, -⟩ | ⟨hscheme, -⟩
  all_goals
    rw [hscheme]
    rfl

theorem Normal.kind_eq (h : u.Normal port host items) : kind u.scheme = .web port := by
  rcases h.scheme with ⟨hscheme, rfl⟩ | ⟨hscheme, rfl⟩
  all_goals
    rw [hscheme]
    rfl

/-- The query and the fragment are found behind whatever does not start them. -/
theorem Normal.parts_of {front : List Char} (h : u.Normal port host items)
    (hfront : Clear ['?', '#'] front) :
    Parts.of (front ++ u.path.chars ++ marked '?' u.query ++ marked '#' u.fragment) =
      ⟨front ++ u.path.chars, u.query, u.fragment⟩ := by
  have hmain : Clear ['?', '#'] (front ++ u.path.chars) := .append hfront h.clear_path
  have hbefore : Clear ['#'] (front ++ u.path.chars ++ marked '?' u.query) :=
    .append (hmain.mono (by decide)) h.clear_query
  rw [Parts.of, breakAt_marked (hbefore.not_mem (by simp))]
  dsimp only
  rw [breakAt_marked (hmain.not_mem (by simp))]

/-- The name and the password are found before the host. -/
theorem Normal.exists_userInfo (h : u.Normal port host items) : ∃ userInfo password,
    splitAtLastAt (u.userInfoChars ++ u.hostChars) = (userInfo, u.hostChars) ∧
      Text.breakAt (· = ':') (userInfo.getD []) = (u.username, password) ∧
      password.getD [] = u.password := by
  have hhost := h.clear_host.not_mem (by decide : '@' ∈ Host.ends)
  have hname := h.username.not_mem (by decide : Percent.userInfo ':' = true)
  rw [userInfoChars]
  split
  · rename_i hnone
    obtain ⟨hnoName, hnoPassword⟩ : u.username = [] ∧ u.password = [] := by simpa using hnone
    exact ⟨none, none, splitAtLastAt_of_not_mem hhost, by rw [hnoName]; rfl, hnoPassword.symm⟩
  · let password := if u.password.isEmpty then none else some u.password
    have hmarked : (if u.password.isEmpty then [] else ':' :: u.password) = marked ':' password := by
      dsimp only [password]
      split <;> rfl
    refine ⟨some (u.username ++ marked ':' password), password, ?_, breakAt_marked hname _, ?_⟩
    · rw [hmarked, List.append_assoc, List.singleton_append, splitAtLastAt_append hhost]
    · dsimp only [password]
      split
      · rename_i hempty
        exact (List.isEmpty_iff.1 hempty).symm
      · rfl

/-! ## Reading the parts -/

theorem Normal.hostChars_ne_nil (h : u.Normal port host items) : u.hostChars ≠ [] := by
  rw [hostChars_eq h.host_eq]
  simp [Host.chars_ne_nil h.host]

theorem Normal.authority_ne_nil (h : u.Normal port host items) :
    u.userInfoChars ++ u.hostChars ≠ [] := by
  simp [h.hostChars_ne_nil]

theorem Normal.isSlash_authority (h : u.Normal port host items) :
    ∀ c ∈ u.userInfoChars ++ u.hostChars, (Kind.web port).isSlash c = false :=
  isSlash_eq_false (h.clear_authority.not_mem (by simp)) (h.clear_authority.not_mem (by simp))

/-- All slashes before the host are skipped. -/
theorem Normal.dropWhile_slashes (h : u.Normal port host items) (rest : List Char) :
    ('/' :: '/' :: (u.userInfoChars ++ u.hostChars) ++ rest).dropWhile (Kind.web port).isSlash =
      u.userInfoChars ++ u.hostChars ++ rest := by
  cases hauthority : u.userInfoChars ++ u.hostChars with
  | nil => exact absurd hauthority h.authority_ne_nil
  | cons c cs =>
    have hc := h.isSlash_authority c (hauthority ▸ List.mem_cons_self ..)
    simp [isSlash_web.1, hc]

/-- The authority ends where the path starts, at a slash. -/
theorem Normal.span_authority {isInside : Char → Bool} (h : u.Normal port host items)
    (hinside : ∀ c ∈ u.userInfoChars ++ u.hostChars, isInside c = true)
    (hslash : isInside '/' = false) :
    (u.userInfoChars ++ u.hostChars ++ u.path.chars).takeWhile isInside =
        u.userInfoChars ++ u.hostChars ∧
      (u.userInfoChars ++ u.hostChars ++ u.path.chars).dropWhile isInside = u.path.chars := by
  have hpath : ∃ cs, u.path.chars = '/' :: cs := by
    rw [h.path_eq, Path.chars]
    cases items with
    | nil => exact absurd rfl h.items_ne
    | cons item items => exact ⟨_, rfl⟩
  obtain ⟨cs, hcs⟩ := hpath
  rw [List.takeWhile_append_of_pos hinside, List.dropWhile_append_of_pos hinside, hcs]
  simp [hslash]

theorem Normal.readAuthority_eq (h : u.Normal port host items) (parts : Parts) :
    readAuthority u.scheme (u.userInfoChars ++ u.hostChars ++ u.path.chars) parts =
      (Host.read host.chars).map fun host => { ofPath u.scheme u.path parts with
        username := u.username
        password := u.password
        host := some host
        port := u.port } := by
  obtain ⟨userInfo, password, hsplit, hbreak, hpassword⟩ := h.exists_userInfo
  have hport : splitPort false u.hostChars = (host.chars, u.portChars) := by
    rw [hostChars_eq h.host_eq, splitPort_chars h.host, splitPort_marked, List.append_nil]
  have hnonempty : host.chars.isEmpty = false := by simpa using Host.chars_ne_nil h.host
  have hpath : readRootedPath (.web port) u.path.chars = u.path := by
    rw [h.path_eq, readRootedPath_chars h.items h.items_ne]
  have hinside : ∀ c ∈ u.userInfoChars ++ u.hostChars, (!(Kind.web port).isSlash c) = true :=
    fun c hc => by rw [h.isSlash_authority c hc]; rfl
  obtain ⟨htake, hdrop⟩ := h.span_authority hinside rfl
  rw [readAuthority, h.kind_eq]
  dsimp only
  rw [htake, hdrop, hsplit]
  dsimp only
  rw [hbreak, hport]
  dsimp only
  rw [hnonempty, hpath, hpassword, encode_of_plain h.username, encode_of_plain h.password]
  rw [if_neg (by simp), if_neg (by simp), readPort_portChars h.port]
  cases Host.read host.chars with
  | error error => rfl
  | ok host => rfl

theorem map_encode_eq_self {set : EncodeSet} (h : ∀ text ∈ part, Plain set text) :
    part.map (encode set) = part := by
  cases part with
  | none => rfl
  | some text => rw [Option.map_some, encode_of_plain (h text rfl)]

/-- A URL of the web is read from its text, if its host is. -/
theorem Normal.read_text (h : u.Normal port host items) :
    Url.read u.text = (Host.read host.chars).map fun host => { u with host := some host } := by
  have hfront : Clear ['?', '#'] ('/' :: '/' :: (u.userInfoChars ++ u.hostChars)) :=
    .cons (by decide) (.cons (by decide) (h.clear_authority.mono (by decide)))
  rw [Url.read, text, clean_ofList h.clear_chars, h.chars_eq, h.splitScheme?_eq]
  dsimp only
  rw [h.parts_of hfront, readAbsolute, h.kind_eq]
  dsimp only
  rw [h.dropWhile_slashes, h.readAuthority_eq]
  have hquery : u.query.map (kind u.scheme).encodeQuery = u.query := by
    rw [h.kind_eq]
    exact map_encode_eq_self h.query
  simp only [ofPath, hquery, map_encode_eq_self h.fragment]

end Parts

/-! ## What is read is in normal form -/

theorem plain_of_mem_map_encode {set : EncodeSet} (hset : Stable set) :
    ∀ text ∈ part.map (encode set), Plain set text := by
  intro text htext
  obtain ⟨source, -, rfl⟩ := Option.mem_map.1 htext
  exact plain_encode hset source

theorem readPort_ne_default {defaultPort : UInt16} {digits : List Char} {result : Option UInt16}
    (h : readPort (some defaultPort) digits = .ok result) : result ≠ some defaultPort := by
  unfold readPort at h
  split at h
  · exact absurd h (by simp)
  · obtain rfl := Except.ok.inj h
    split
    · simp
    · rename_i hother
      intro heq
      simp [heq] at hother

theorem scheme_of_readFile {scheme : List Char} {parts : Parts}
    (h : readFile scheme parts = .ok u) : u.scheme = scheme := by
  unfold readFile at h
  dsimp only at h
  split at h
  · split at h
    · split at h
      · rw [← Except.ok.inj h]
        rfl
      · obtain ⟨host, -, h⟩ := bind_eq_ok_iff.1 h
        split at h
        all_goals
          rw [← Except.ok.inj h]
          rfl
    · rw [← Except.ok.inj h]
      rfl
  · rw [← Except.ok.inj h]
    rfl

theorem scheme_of_readAuthority {scheme : List Char} {parts : Parts}
    (h : readAuthority scheme cs parts = .ok u) : u.scheme = scheme := by
  unfold readAuthority at h
  dsimp only at h
  split at h
  · exact absurd h (by simp)
  · split at h
    all_goals
      obtain ⟨host, -, h⟩ := bind_eq_ok_iff.1 h
      obtain ⟨port, -, h⟩ := bind_eq_ok_iff.1 h
      rw [← Except.ok.inj h]
      rfl

/-- The scheme of a URL is the one that its text starts with. -/
theorem scheme_of_readAbsolute {scheme : List Char} {parts : Parts}
    (h : readAbsolute scheme parts = .ok u) : u.scheme = scheme := by
  unfold readAbsolute at h
  split at h
  · exact scheme_of_readAuthority h
  · exact scheme_of_readFile h
  · split at h
    · exact scheme_of_readAuthority h
    · rw [← Except.ok.inj h]
      rfl
    · rw [← Except.ok.inj h]
      rfl

/-- What is read from the authority on is in normal form. -/
theorem normal_of_readAuthority {scheme : List Char} {parts : Parts}
    (hscheme : (scheme = "http".toList ∧ port = 80) ∨ (scheme = "https".toList ∧ port = 443))
    (h : readAuthority scheme cs parts = .ok u) : ∃ host items, u.Normal port host items := by
  have hkind : kind scheme = .web port := by
    rcases hscheme with ⟨rfl, rfl⟩ | ⟨rfl, rfl⟩
    · rfl
    · rfl
  unfold readAuthority at h
  dsimp only at h
  rw [hkind, if_neg (by simp : ¬ Kind.web port = .foreign)] at h
  split at h
  · exact absurd h (by simp)
  · obtain ⟨host, hhost, h⟩ := bind_eq_ok_iff.1 h
    obtain ⟨readPort, hport, h⟩ := bind_eq_ok_iff.1 h
    obtain ⟨items, hitems, hne, hall⟩ := exists_segments_of_readRootedPath port
      (cs.dropWhile fun c => !(Kind.web port).isSlash c)
    obtain rfl := Except.ok.inj h
    exact ⟨host, items, {
      scheme := hscheme
      username := plain_encode stable_userInfo _
      password := plain_encode stable_userInfo _
      host_eq := rfl
      host := Host.normal_of_read hhost
      port := readPort_ne_default hport
      path_eq := hitems
      items_ne := hne
      items := hall
      query := by
        have hencode : (kind scheme).encodeQuery = encode Percent.webQuery := by
          rw [hkind]
          rfl
        rw [ofPath, hencode]
        exact plain_of_mem_map_encode stable_webQuery
      fragment := plain_of_mem_map_encode stable_fragment }⟩

/-- A URL of the web that was read is in normal form. -/
theorem normal_of_read {s : String} (h : Url.read s = .ok u) (hweb : Http.isWeb u = true) :
    ∃ port host items, u.Normal port host items := by
  unfold Url.read at h
  split at h
  · exact absurd h (by simp)
  · rename_i scheme rest _
    obtain rfl := scheme_of_readAbsolute h
    obtain ⟨port, hscheme⟩ : ∃ port : UInt16, (u.scheme = "http".toList ∧ port = 80) ∨
        (u.scheme = "https".toList ∧ port = 443) := by
      have hscheme : u.scheme = "http".toList ∨ u.scheme = "https".toList := by
        simpa [Http.isWeb] using hweb
      rcases hscheme with hhttp | hhttps
      · exact ⟨80, Or.inl ⟨hhttp, rfl⟩⟩
      · exact ⟨443, Or.inr ⟨hhttps, rfl⟩⟩
    have hkind : kind u.scheme = .web port := by
      rcases hscheme with ⟨hhttp, rfl⟩ | ⟨hhttps, rfl⟩
      · rw [hhttp]
        rfl
      · rw [hhttps]
        rfl
    unfold readAbsolute at h
    rw [hkind] at h
    exact ⟨port, normal_of_readAuthority hscheme h⟩

end AccessDecision.Url
