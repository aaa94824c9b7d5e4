import AccessDecision.Proofs.Url.Text
import Mathlib.Data.List.DropRight

set_option autoImplicit false

/-! # Putting a segment behind the text of a URL

The text of a URL, less the slashes at its end, a slash and a segment are the text of a URL again
(`Url.Normal.chars_under`). Where the segment stands in it depends on what the text ended with: in
the path only if there is neither a query nor a fragment. -/

namespace AccessDecision.Url

open Percent

variable {u : Url} {cs segment : List Char} {items : List (List Char)} {port : UInt16}
  {host : Host}

/-! ## Slashes at the end -/

/-- A text without the slashes at its end. -/
def trimSlashes (cs : List Char) : List Char := cs.rdropWhile (· = '/')

/-- Behind a text that does not end in a slash, only the rest is trimmed. -/
theorem trimSlashes_append (h : trimSlashes cs = cs) (rest : List Char) :
    trimSlashes (cs ++ rest) = cs ++ trimSlashes rest := by
  induction rest using List.reverseRecOn with
  | nil => rw [List.append_nil, h, trimSlashes, List.rdropWhile_nil, List.append_nil]
  | append_singleton rest c ih =>
    unfold trimSlashes at ih ⊢
    rw [← List.append_assoc, List.rdropWhile_concat, List.rdropWhile_concat]
    split
    · exact ih
    · rw [List.append_assoc]

/-- A text that ends in something without slashes stays whole. -/
theorem trimSlashes_of_tail (front : List Char) (hne : cs ≠ []) (h : '/' ∉ cs) :
    trimSlashes (front ++ cs) = front ++ cs := by
  refine List.rdropWhile_eq_self_iff.2 fun _ hlast => ?_
  rw [List.getLast_append_of_ne_nil _ hne] at hlast
  exact h (of_decide_eq_true hlast ▸ List.getLast_mem hne)

theorem plain_trimSlashes {set : EncodeSet} (h : Plain set cs) : Plain set (trimSlashes cs) :=
  h.sublist (List.rdropWhile_prefix _ _).sublist

namespace Path

/-- A path with a segment behind it, in the place of the empty ones at its end. -/
def under (segment : List Char) : Path → Path
  | .segments items => .segments (items.rdropWhile List.isEmpty ++ [segment])
  | .opaqueText text => .opaqueText (trimSlashes text ++ '/' :: segment)

/-- The slashes at the end of a path are its empty segments there. -/
theorem chars_under (h : ∀ item ∈ items, '/' ∉ item) (segment : List Char) :
    ((Path.segments items).under segment).chars =
      trimSlashes (Path.segments items).chars ++ '/' :: segment := by
  suffices htrim : (Path.segments (items.rdropWhile List.isEmpty)).chars =
      trimSlashes (Path.segments items).chars by
    rw [under, chars, List.flatMap_append, ← chars.eq_1, htrim]
    simp
  induction items using List.reverseRecOn with
  | nil => rfl
  | append_singleton items last ih =>
    have hitems : ∀ item ∈ items, '/' ∉ item := fun item hitem =>
      h item (List.mem_append_left _ hitem)
    have hlast : '/' ∉ last := h last (by simp)
    have hchars : (Path.segments (items ++ [last])).chars =
        (Path.segments items).chars ++ '/' :: last := by
      simp [chars]
    rw [hchars]
    rcases List.eq_nil_or_concat' last with rfl | ⟨front, c, rfl⟩
    · rw [List.rdropWhile_concat_pos _ _ _ rfl, ih hitems, trimSlashes, trimSlashes,
        List.rdropWhile_concat_pos _ _ _ rfl]
    · have hc : c ≠ '/' := fun heq => hlast (by simp [heq])
      rw [List.rdropWhile_concat_neg _ _ _ (by simp), hchars, trimSlashes, ← List.cons_append,
        ← List.append_assoc, List.rdropWhile_concat_neg _ _ _ (by simpa using hc)]

end Path

/-! ## A segment behind a text -/

/-- What the text of a URL means with a slash and a segment behind it, which take the place of the
    slashes at its end. -/
def under (u : Url) (segment : List Char) : Url :=
  match u.query, u.fragment with
  | none, none => { u with path := u.path.under segment }
  | some query, none => { u with query := some (trimSlashes query ++ '/' :: segment) }
  | _, some fragment => { u with fragment := some (trimSlashes fragment ++ '/' :: segment) }

/-- A segment that stays as it is in a path, in a query and in a fragment. -/
structure IsJoinable (segment : List Char) : Prop where
  isSegment : IsSegment segment
  query : Plain Percent.webQuery segment
  fragment : Plain Percent.fragment segment

theorem plain_join {set : EncodeSet} (hslash : set '/' = false) (h : Plain set cs)
    (hsegment : Plain set segment) : Plain set (trimSlashes cs ++ '/' :: segment) :=
  (plain_trimSlashes h).append (List.forall_mem_cons.2 ⟨⟨by decide, hslash⟩, hsegment⟩)

/-- What is put together is in normal form. -/
theorem Normal.under (h : u.Normal port host items) (hsegment : IsJoinable segment) :
    ∃ items, (u.under segment).Normal port host items := by
  unfold Url.under
  split
  · refine ⟨items.rdropWhile List.isEmpty ++ [segment],
      { h with path_eq := ?_, items_ne := by simp, items := ?_ }⟩
    · rw [h.path_eq]
      rfl
    · intro item hitem
      rcases List.mem_append.1 hitem with hitem | hitem
      · exact h.items item ((List.rdropWhile_prefix _ _).subset hitem)
      · exact List.mem_singleton.1 hitem ▸ hsegment.isSegment
  · rename_i query hquery _
    refine ⟨items, { h with query := ?_ }⟩
    intro text htext
    obtain rfl := Option.mem_some_iff.1 htext
    exact plain_join (by decide) (h.query query hquery) hsegment.query
  · rename_i fragment hfragment
    refine ⟨items, { h with fragment := ?_ }⟩
    intro text htext
    obtain rfl := Option.mem_some_iff.1 htext
    exact plain_join (by decide) (h.fragment fragment hfragment) hsegment.fragment

/-! ## The text of what is put together -/

theorem authorityChars_of_host (h : u.host = some host) :
    u.authorityChars = '/' :: '/' :: u.userInfoChars ++ u.hostChars := by
  rw [authorityChars, h]

theorem chars_of_query (hquery : u.query = some cs) (hfragment : u.fragment = none) :
    u.chars = u.scheme ++ ':' :: u.authorityChars ++ u.path.chars ++ ['?'] ++ cs := by
  simp [chars, hquery, hfragment, marked]

theorem chars_of_fragment (h : u.fragment = some cs) :
    u.chars = u.scheme ++ ':' :: u.authorityChars ++ u.path.chars ++ marked '?' u.query ++ ['#'] ++
      cs := by
  simp [chars, h, marked]

theorem chars_of_path (hquery : u.query = none) (hfragment : u.fragment = none) :
    u.chars = u.scheme ++ ':' :: u.authorityChars ++ u.path.chars := by
  simp [chars, hquery, hfragment, marked]

/-- The host stands before the path, and no slash ends it. -/
theorem Normal.trimSlashes_front (h : u.Normal port host items) :
    trimSlashes (u.scheme ++ ':' :: u.authorityChars) = u.scheme ++ ':' :: u.authorityChars := by
  have hwhole := trimSlashes_of_tail (u.scheme ++ [':', '/', '/']) h.authority_ne_nil
    (h.clear_authority.not_mem (by simp))
  simpa [authorityChars_of_host h.host_eq] using hwhole

theorem Normal.chars_path_under (h : u.Normal port host items) (segment : List Char) :
    (u.path.under segment).chars = trimSlashes u.path.chars ++ '/' :: segment := by
  rw [h.path_eq]
  exact Path.chars_under (fun item hitem => (h.items item hitem).slash) segment

/-- The text that is put together is the text of a URL. -/
theorem Normal.chars_under (h : u.Normal port host items) (segment : List Char) :
    (u.under segment).chars = trimSlashes u.chars ++ '/' :: segment := by
  unfold Url.under
  split
  · rename_i hquery hfragment
    rw [chars_of_path hquery hfragment, chars_of_path (by exact hquery) (by exact hfragment),
      h.chars_path_under, trimSlashes_append h.trimSlashes_front, authorityChars_of_host h.host_eq,
      authorityChars_of_host (by exact h.host_eq)]
    exact (List.append_assoc ..).symm
  · rename_i query hquery hfragment
    rw [chars_of_query hquery hfragment, chars_of_query rfl (by exact hfragment),
      trimSlashes_append (trimSlashes_of_tail _ (by simp) (by simp))]
    exact (List.append_assoc ..).symm
  · rename_i fragment hfragment
    rw [chars_of_fragment hfragment, chars_of_fragment rfl,
      trimSlashes_append (trimSlashes_of_tail _ (by simp) (by simp))]
    exact (List.append_assoc ..).symm

end AccessDecision.Url
