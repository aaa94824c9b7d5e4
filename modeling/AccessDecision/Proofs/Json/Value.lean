import AccessDecision.Proofs.Json.Members
import AccessDecision.Proofs.Json.Parts

set_option autoImplicit false

/-! # Reading back a written value

A value without real numbers comes back from its text in canonical form, unless lists and objects
lie deeper within one another than the reader allows; then the text is refused for that
(`readValue_chars`). The two belong together: what is written before the bracket that is too deep is
read as if nothing were wrong. -/

namespace AccessDecision.Json

open Outcome Text.Utf8

/-! ## Canonical values -/

mutual

/-- A canonical value is its own canonical form. -/
theorem canonical_eq_self : (v : Json) → v.Canonical → v.canonical = v
  | .null, _ | .bool _, _ | .whole _, _ | .real _, _ | .string _, _ => by simp [canonical]
  | .array items, h => by rw [canonical, canonicalItems_eq_self items h]
  | .object members, h => by
    rw [canonical, canonicalMembers_eq_self members h.2, insertAll_of_sorted h.1]

theorem canonicalItems_eq_self :
    (items : List Json) → CanonicalItems items → canonicalItems items = items
  | [], _ => rfl
  | v :: rest, h => by
    rw [canonicalItems, canonical_eq_self v h.1, canonicalItems_eq_self rest h.2]

theorem canonicalMembers_eq_self :
    (members : List (String × Json)) → CanonicalMembers members → canonicalMembers members = members
  | [], _ => rfl
  | (_, v) :: rest, h => by
    rw [canonicalMembers, canonical_eq_self v h.1, canonicalMembers_eq_self rest h.2]

end

/-! ## Depth -/

mutual

/-- How many lists and objects lie within one another, the value itself included. -/
def nesting : Json → Nat
  | .array items => nestingItems items + 1
  | .object members => nestingMembers members + 1
  | .null | .bool _ | .whole _ | .real _ | .string _ => 0

def nestingItems : List Json → Nat
  | [] => 0
  | v :: rest => max (nesting v) (nestingItems rest)

def nestingMembers : List (String × Json) → Nat
  | [] => 0
  | (_, v) :: rest => max (nesting v) (nestingMembers rest)

end

/-- A reader that allows some depth comes to a value and what follows it, or to the error for depth
    if the value nests deeper. -/
structure ReadsTo {α : Type} (depth nesting : Nat) (value : α) (rest : Bytes)
    (outcome : Except Fault (α × Bytes)) : Prop where
  of_lt : nesting < depth → outcome = .ok (value, rest)
  of_le : depth ≤ nesting → ∃ r, outcome = .error ⟨.tooDeep, r⟩

namespace ReadsTo

variable {α β : Type} {depth nesting nesting' : Nat} {a : α} {b : β} {rest rest' : Bytes}

/-- What has no brackets is never too deep. -/
theorem of_eq {outcome : Except Fault (α × Bytes)} (hpos : 0 < depth)
    (h : outcome = .ok (a, rest)) : ReadsTo depth 0 a rest outcome :=
  ⟨fun _ => h, fun hle => absurd hle (Nat.not_le_of_lt hpos)⟩

/-- Of two readers in turn the first one that goes too deep is the one that matters. -/
theorem bind {first : Except Fault (α × Bytes)} {second : α × Bytes → Except Fault (β × Bytes)}
    (hfirst : ReadsTo depth nesting a rest first)
    (hsecond : ReadsTo depth nesting' b rest' (second (a, rest))) :
    ReadsTo depth (max nesting nesting') b rest' (first >>= second) := by
  constructor
  · intro hlt
    rw [hfirst.of_lt (by omega), ok_bind]
    exact hsecond.of_lt (by omega)
  · intro hle
    by_cases hdeep : depth ≤ nesting
    · obtain ⟨r, herror⟩ := hfirst.of_le hdeep
      exact ⟨r, by rw [herror, error_bind]⟩
    · rw [hfirst.of_lt (by omega), ok_bind]
      exact hsecond.of_le (by omega)

theorem map {reader : Except Fault (α × Bytes)} (h : ReadsTo depth nesting a rest reader)
    (f : α → β) :
    ReadsTo depth nesting (f a) rest (do
      let (a, r) ← reader
      .ok (f a, r)) := by
  constructor
  · intro hlt
    rw [h.of_lt hlt, ok_bind]
  · intro hle
    obtain ⟨r, herror⟩ := h.of_le hle
    exact ⟨r, by rw [herror, error_bind]⟩

/-- A bracket uses up one level. -/
theorem inside {reader : Except Fault (α × Bytes)} {r : Bytes}
    (h : 0 < depth - 1 → ReadsTo (depth - 1) nesting a rest reader) (hpos : 0 < depth) (f : α → β) :
    ReadsTo depth (nesting + 1) (f a) rest
      (if depth ≤ 1 then .error ⟨.tooDeep, r⟩
      else do
        let (a, r) ← reader
        .ok (f a, r)) := by
  by_cases hlimit : depth ≤ 1
  · rw [if_pos hlimit]
    exact ⟨fun hlt => absurd hlt (by omega), fun _ => ⟨r, rfl⟩⟩
  · rw [if_neg hlimit]
    have hinside := (h (by omega)).map f
    exact ⟨fun hlt => hinside.of_lt (by omega), fun hle => hinside.of_le (by omega)⟩

end ReadsTo

/-! ## The way back -/

mutual

/-- What the reader makes of the text of a value. -/
theorem readValue_chars : (v : Json) → (steps depth : Nat) → (rest : Bytes) →
    v.hasReal = false → 0 < depth → (encodeChars v.chars).length ≤ steps → EndsNumber rest →
    ReadsTo depth v.nesting v.canonical rest
      (readValue steps depth (encodeChars v.chars ++ rest))
  | .null, _, depth, _, hreal, hpos, hsteps, hrest
  | .bool _, _, depth, _, hreal, hpos, hsteps, hrest
  | .whole _, _, depth, _, hreal, hpos, hsteps, hrest
  | .string _, _, depth, _, hreal, hpos, hsteps, hrest =>
    .of_eq hpos
      (readValue_flat rfl depth (Nat.lt_of_lt_of_le (length_pos_of_hasReal hreal) hsteps) hrest)
  | .array items, steps, depth, rest, hreal, hpos, hsteps, _ => by
    rw [length_array] at hsteps
    obtain ⟨steps, rfl⟩ : ∃ n, steps = n + 1 := ⟨steps - 1, by omega⟩
    rw [readValue_array]
    refine .inside (fun hpos => ?_) hpos Json.array
    exact readItems_chars items true steps (depth - 1) rest hreal hpos
      (show (encodeChars (itemsChars items)).length < steps by omega)
  | .object members, steps, depth, rest, hreal, hpos, hsteps, _ => by
    rw [length_object] at hsteps
    obtain ⟨steps, rfl⟩ : ∃ n, steps = n + 1 := ⟨steps - 1, by omega⟩
    rw [readValue_object]
    refine .inside (fun hpos => ?_) hpos fun members => Json.object (insertAll [] members)
    exact readMembers_chars members true steps (depth - 1) rest hreal hpos
      (show (encodeChars (membersChars members)).length < steps by omega)

theorem readItems_chars : (items : List Json) → (isFirst : Bool) → (steps depth : Nat) →
    (rest : Bytes) → hasRealItems items = false → 0 < depth →
    (encodeChars (leftItemsChars isFirst items)).length < steps →
    ReadsTo depth (nestingItems items) (canonicalItems items) rest
      (readItems steps depth isFirst
        (encodeChars (leftItemsChars isFirst items) ++ closeBracket :: rest))
  | [], isFirst, steps, depth, rest, _, hpos, hsteps => by
    obtain ⟨steps, rfl⟩ : ∃ n, steps = n + 1 := ⟨steps - 1, by omega⟩
    rw [leftItemsChars_nil, encodeChars_nil, List.nil_append]
    exact .of_eq hpos (readItems_nil ..)
  | v :: items, isFirst, steps, depth, rest, hreal, hpos, hsteps => by
    obtain ⟨hv, hitems⟩ := hasRealItems_cons hreal
    obtain ⟨hlength, hmore⟩ := length_leftItemsChars_cons isFirst hv items
    obtain ⟨steps, rfl⟩ : ∃ n, steps = n + 1 := ⟨steps - 1, by omega⟩
    have hvalue := readValue_chars v steps depth
      (encodeChars (moreItemsChars items) ++ closeBracket :: rest) hv hpos (by omega)
      (endsNumber_moreItemsChars items rest)
    have hleft := readItems_chars items false steps depth rest hitems hpos
      (show (encodeChars (moreItemsChars items)).length < steps by omega)
    rw [readItems_cons steps depth isFirst hv]
    refine hvalue.bind ?_
    exact hleft.map (v.canonical :: ·)

theorem readMembers_chars : (members : List (String × Json)) → (isFirst : Bool) →
    (steps depth : Nat) → (rest : Bytes) → hasRealMembers members = false → 0 < depth →
    (encodeChars (leftChars isFirst members)).length < steps →
    ReadsTo depth (nestingMembers members) (canonicalMembers members) rest
      (readMembers steps depth isFirst
        (encodeChars (leftChars isFirst members) ++ closeBrace :: rest))
  | [], isFirst, steps, depth, rest, _, hpos, hsteps => by
    obtain ⟨steps, rfl⟩ : ∃ n, steps = n + 1 := ⟨steps - 1, by omega⟩
    rw [leftChars_nil, encodeChars_nil, List.nil_append]
    exact .of_eq hpos (readMembers_nil ..)
  | (name, v) :: members, isFirst, steps, depth, rest, hreal, hpos, hsteps => by
    obtain ⟨hv, hmembers⟩ := hasRealMembers_cons hreal
    obtain ⟨hlength, hmore⟩ := length_leftChars_cons isFirst name v members
    obtain ⟨steps, rfl⟩ : ∃ n, steps = n + 1 := ⟨steps - 1, by omega⟩
    have hvalue := readValue_chars v steps depth
      (encodeChars (moreChars members) ++ closeBrace :: rest) hv hpos (by omega)
      (endsNumber_moreChars members rest)
    have hleft := readMembers_chars members false steps depth rest hmembers hpos
      (show (encodeChars (moreChars members)).length < steps by omega)
    rw [readMembers_cons]
    refine hvalue.bind ?_
    exact hleft.map ((name, v.canonical) :: ·)

end

/-- A value without real numbers is read back from its text. -/
theorem read_text {v : Json} (hreal : v.hasReal = false) (hnesting : v.nesting < depthLimit) :
    read (encode v.text) = .ok v.canonical := by
  have hchars : encode v.text = encodeChars v.chars := by rw [encode, text, String.toList_ofList]
  have hread := readValue_chars v (2 * (encodeChars v.chars).length + 2) depthLimit [] hreal
    (by decide) (by omega) fun b r h => absurd h (by simp)
  rw [List.append_nil] at hread
  rw [read, readAll, hchars, hread.of_lt hnesting]
  rfl

/-- An object with distinct names comes back with the same members, in the order of their names. -/
theorem read_object {members : List (String × Json)} (hreal : hasRealMembers members = false)
    (hnesting : nestingMembers members + 1 < depthLimit) (hcanonical : CanonicalMembers members)
    (hnames : (members.map Prod.fst).Nodup) :
    ∃ parsed, read (encode (Json.object members).text) = .ok (.object parsed) ∧
      Sorted parsed ∧ parsed.Perm members := by
  have hread : read (encode (Json.object members).text) = .ok (Json.object members).canonical :=
    read_text hreal hnesting
  rw [canonical, canonicalMembers_eq_self members hcanonical] at hread
  exact ⟨_, hread, sorted_insertAll List.Pairwise.nil, insertAll_perm hnames⟩

end AccessDecision.Json
