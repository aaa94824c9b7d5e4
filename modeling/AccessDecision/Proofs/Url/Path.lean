import AccessDecision.Proofs.Text.Pieces
import AccessDecision.Proofs.Url.Percent
import AccessDecision.Url.Read

set_option autoImplicit false

/-! # Paths in normal form

A path that was read consists of segments that are encoded, hold no slash, and are no step to
themselves or to their parent (`IsSegment`, `isSegment_of_mem_takeSteps`). Such a path is read from
its own text (`readRootedPath_chars`). -/

namespace AccessDecision.Url

open Percent

/-- A segment that stays as it is. -/
structure IsSegment (segment : List Char) : Prop where
  plain : Plain Percent.path segment
  slash : '/' ∉ segment
  backslash : '\\' ∉ segment
  self : isSelf segment = false
  parent : isParent segment = false

variable {segment cs : List Char} {items taken : List (List Char)} {port : UInt16}

/-! ## Encoded segments -/

theorem isSelf_iff :
    isSelf segment = true ↔ ∃ dot ∈ dots, segment.map Char.toLower = dot := by
  simp [isSelf, dots]

theorem isParent_iff :
    isParent segment = true ↔ ∃ dot ∈ dots, ∃ other ∈ dots,
      segment.map Char.toLower = dot ++ other := by
  simp [isParent, dots, or_assoc]

theorem isSelf_of_encode (h : isSelf (encode Percent.path segment) = true) :
    isSelf segment = true := by
  obtain ⟨dot, hdot, hencoded⟩ := isSelf_iff.1 h
  obtain ⟨rest, hsegment, hrest⟩ := of_map_encode_eq_append (by decide) hdot
    (hencoded.trans (List.append_nil dot).symm)
  rw [eq_nil_of_encode (List.map_eq_nil_iff.1 hrest)] at hsegment
  exact isSelf_iff.2 ⟨dot, hdot, hsegment.trans (List.append_nil dot)⟩

theorem isParent_of_encode (h : isParent (encode Percent.path segment) = true) :
    isParent segment = true := by
  obtain ⟨dot, hdot, other, hother, hencoded⟩ := isParent_iff.1 h
  obtain ⟨rest, hsegment, hrest⟩ := of_map_encode_eq_append (by decide) hdot hencoded
  obtain ⟨last, hlast, hnone⟩ := of_map_encode_eq_append (by decide) hother
    (hrest.trans (List.append_nil other).symm)
  rw [eq_nil_of_encode (List.map_eq_nil_iff.1 hnone)] at hlast
  refine isParent_iff.2 ⟨dot, hdot, other, hother, ?_⟩
  rw [hsegment, hlast, List.map_nil, List.append_nil]

theorem isSegment_nil : IsSegment [] :=
  ⟨by simp [Plain], by simp, by simp, by decide, by decide⟩

/-- A piece between slashes that is no step is encoded to a segment. -/
theorem isSegment_encode (hslash : '/' ∉ segment) (hbackslash : '\\' ∉ segment)
    (hself : isSelf segment = false) (hparent : isParent segment = false) :
    IsSegment (encode Percent.path segment) where
  plain := plain_encode stable_path segment
  slash h := hslash (mem_of_mem_encode (by decide) (by decide) h)
  backslash h := hbackslash (mem_of_mem_encode (by decide) (by decide) h)
  self := by
    rw [← Bool.not_eq_true] at hself ⊢
    exact mt isSelf_of_encode hself
  parent := by
    rw [← Bool.not_eq_true] at hparent ⊢
    exact mt isParent_of_encode hparent

/-! ## Taking steps -/

theorem forall_toParent (h : ∀ item ∈ taken, IsSegment item) :
    ∀ item ∈ toParent taken, IsSegment item := by
  unfold toParent
  cases taken with
  | nil => exact h
  | cons last rest =>
    dsimp only
    split
    · exact h
    · exact (List.forall_mem_cons.1 h).2

/-- After all steps there are only segments, and there is one if any were read. -/
theorem isSegment_of_mem_takeSteps (hslash : ∀ item ∈ items, '/' ∉ item ∧ '\\' ∉ item)
    (htaken : ∀ item ∈ taken, IsSegment item) (hany : items ≠ [] ∨ taken ≠ []) :
    (∀ item ∈ takeSteps taken items, IsSegment item) ∧ takeSteps taken items ≠ [] := by
  induction items generalizing taken with
  | nil =>
    have hne := hany.resolve_left (by simp)
    simpa [takeSteps] using ⟨htaken, hne⟩
  | cons segment rest ih =>
    obtain ⟨hsegment, hrest⟩ := List.forall_mem_cons.1 hslash
    -- a step at the end leaves an empty segment
    have hstep (taken : List (List Char)) (h : ∀ item ∈ taken, IsSegment item) :
        (∀ item ∈ takeSteps (if rest.isEmpty then [] :: taken else taken) rest, IsSegment item) ∧
          takeSteps (if rest.isEmpty then [] :: taken else taken) rest ≠ [] := by
      cases rest with
      | nil => exact ih hrest (List.forall_mem_cons.2 ⟨isSegment_nil, h⟩) (Or.inr (by simp))
      | cons next more => exact ih hrest h (Or.inl (by simp))
    rw [takeSteps]
    cases hparent : isParent segment with
    | true => exact hstep _ (forall_toParent htaken)
    | false =>
      cases hself : isSelf segment with
      | true => exact hstep _ htaken
      | false =>
        have hencoded := isSegment_encode hsegment.1 hsegment.2 hself hparent
        exact ih hrest (List.forall_mem_cons.2 ⟨hencoded, htaken⟩) (Or.inr (by simp))

/-- Segments take no steps. -/
theorem takeSteps_of_isSegment (h : ∀ item ∈ items, IsSegment item) :
    takeSteps taken items = taken.reverse ++ items := by
  induction items generalizing taken with
  | nil => rw [takeSteps, List.append_nil]
  | cons segment rest ih =>
    obtain ⟨hsegment, hrest⟩ := List.forall_mem_cons.1 h
    rw [takeSteps]
    simp only [hsegment.parent, hsegment.self, encode_of_plain hsegment.plain, ih hrest,
      Bool.false_eq_true, if_false, List.reverse_cons, List.append_assoc, List.singleton_append]

/-! ## Text and segments -/

theorem isSlash_web : (Kind.web port).isSlash '/' = true ∧ (Kind.web port).isSlash '\\' = true :=
  ⟨rfl, rfl⟩

theorem isSlash_eq_false (h : '/' ∉ cs) (h' : '\\' ∉ cs) :
    ∀ c ∈ cs, (Kind.web port).isSlash c = false := by
  intro c hc
  have hslash : c ≠ '/' := fun heq => h (heq ▸ hc)
  have hbackslash : c ≠ '\\' := fun heq => h' (heq ▸ hc)
  simp [Kind.isSlash, hslash, hbackslash]

/-- Segments are the pieces of their text. -/
theorem pieces_chars (h : IsSegment segment) (hitems : ∀ item ∈ items, IsSegment item) :
    Text.pieces (Kind.web port).isSlash (segment ++ (Path.segments items).chars) =
      segment :: items := by
  induction items generalizing segment with
  | nil =>
    rw [Path.chars, List.flatMap_nil, List.append_nil,
      Text.pieces_eq_singleton (isSlash_eq_false h.slash h.backslash)]
  | cons next rest ih =>
    obtain ⟨hnext, hrest⟩ := List.forall_mem_cons.1 hitems
    rw [Path.chars, List.flatMap_cons, List.cons_append,
      Text.pieces_append_cons (isSlash_eq_false h.slash h.backslash) isSlash_web.1]
    exact congrArg (segment :: ·) (ih hnext hrest)

/-- A path in normal form is read from its text. -/
theorem readRootedPath_chars (hitems : ∀ item ∈ items, IsSegment item) (hne : items ≠ []) :
    readRootedPath (.web port) (Path.segments items).chars = .segments items := by
  cases items with
  | nil => exact absurd rfl hne
  | cons first rest =>
    obtain ⟨hfirst, hrest⟩ := List.forall_mem_cons.1 hitems
    rw [Path.chars, List.flatMap_cons, List.cons_append, readRootedPath, if_pos isSlash_web.1,
      readPath]
    have hpieces : Text.pieces (Kind.web port).isSlash
        (first ++ rest.flatMap fun item => '/' :: item) = first :: rest := pieces_chars hfirst hrest
    rw [hpieces, takeSteps_of_isSegment hitems]
    rfl

theorem slash_not_mem_of_mem_pieces {piece : List Char}
    (h : piece ∈ Text.pieces (Kind.web port).isSlash cs) : '/' ∉ piece ∧ '\\' ∉ piece := by
  have hfree := Text.isSeparator_of_mem_pieces h
  constructor
  · intro hmem
    exact absurd (hfree _ hmem) (by rw [isSlash_web.1]; simp)
  · intro hmem
    exact absurd (hfree _ hmem) (by rw [isSlash_web.2]; simp)

/-- Whatever is read as a path is in normal form. -/
theorem exists_segments_of_readRootedPath (port : UInt16) (cs : List Char) :
    ∃ items, readRootedPath (.web port) cs = .segments items ∧ items ≠ [] ∧
      ∀ item ∈ items, IsSegment item := by
  cases cs with
  | nil => exact ⟨[[]], rfl, by simp, by simpa using isSegment_nil⟩
  | cons c cs =>
    have hnone : ∀ item ∈ ([] : List (List Char)), IsSegment item := by simp
    rw [readRootedPath, readPath]
    obtain ⟨hall, hne⟩ := isSegment_of_mem_takeSteps (fun _ h => slash_not_mem_of_mem_pieces h)
      hnone (Or.inl (Text.pieces_ne_nil (Kind.web port).isSlash _))
    exact ⟨_, rfl, hne, hall⟩

end AccessDecision.Url
