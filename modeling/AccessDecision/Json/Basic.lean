import AccessDecision.Binary64.Basic

set_option autoImplicit false

/-! # JSON values

A number is whole or real: whole numbers are those between `-2 ^ 63` and `2 ^ 64 - 1`, everything
else is a binary64 number. An object is a list of members. In a *canonical* value the members of
every object stand in rising order of their names, each name once; `Json.canonical` brings any value
to that form, keeping the last of several members of one name, and leaves a canonical value alone.
-/

namespace AccessDecision

/-- A whole number that fits 64 bits, signed or unsigned. -/
structure Whole where
  val : Int
  min_le : -0x8000000000000000 ≤ val
  lt_top : val < 0x10000000000000000
  deriving DecidableEq

namespace Whole

def ofInt? (n : Int) : Option Whole :=
  if h : -0x8000000000000000 ≤ n ∧ n < 0x10000000000000000 then some ⟨n, h.1, h.2⟩ else none

theorem ofInt?_eq_some_iff {n : Int} {w : Whole} : ofInt? n = some w ↔ w.val = n := by
  unfold ofInt?
  split
  · rename_i h
    simp only [Option.some.injEq]
    exact ⟨fun e => e ▸ rfl, fun e => by cases w; simp_all⟩
  · rename_i h
    simp only [reduceCtorEq, false_iff]
    intro e
    exact h ⟨e ▸ w.min_le, e ▸ w.lt_top⟩

@[simp] theorem ofInt?_val (w : Whole) : ofInt? w.val = some w :=
  ofInt?_eq_some_iff.2 rfl

/-- A signed 64-bit integer. -/
def ofInt64 (n : Int64) : Whole :=
  ⟨n.toInt, n.le_toInt, Int.lt_trans n.toInt_lt (by decide)⟩

/-- The whole number as a signed 64-bit integer, where it is one. -/
def toInt64? (w : Whole) : Option Int64 :=
  if w.val < 0x8000000000000000 then some (Int64.ofInt w.val) else none

end Whole

inductive Json where
  | null
  | bool (value : Bool)
  | whole (value : Whole)
  | real (value : Binary64)
  | string (value : String)
  | array (items : List Json)
  | object (members : List (String × Json))
  deriving Inhabited

namespace Json

/-! ## Equality -/

mutual

def decEq : (a b : Json) → Decidable (a = b)
  | .null, .null => isTrue rfl
  | .bool a, .bool b => if h : a = b then isTrue (h ▸ rfl) else isFalse (by simp [h])
  | .whole a, .whole b => if h : a = b then isTrue (h ▸ rfl) else isFalse (by simp [h])
  | .real a, .real b => if h : a = b then isTrue (h ▸ rfl) else isFalse (by simp [h])
  | .string a, .string b => if h : a = b then isTrue (h ▸ rfl) else isFalse (by simp [h])
  | .array a, .array b => match decEqItems a b with
    | isTrue h => isTrue (h ▸ rfl)
    | isFalse h => isFalse (by simp [h])
  | .object a, .object b => match decEqMembers a b with
    | isTrue h => isTrue (h ▸ rfl)
    | isFalse h => isFalse (by simp [h])
  | .null, .bool _ | .null, .whole _ | .null, .real _ | .null, .string _ | .null, .array _
  | .null, .object _ | .bool _, .null | .bool _, .whole _ | .bool _, .real _ | .bool _, .string _
  | .bool _, .array _ | .bool _, .object _ | .whole _, .null | .whole _, .bool _ | .whole _, .real _
  | .whole _, .string _ | .whole _, .array _ | .whole _, .object _ | .real _, .null
  | .real _, .bool _ | .real _, .whole _ | .real _, .string _ | .real _, .array _
  | .real _, .object _ | .string _, .null | .string _, .bool _ | .string _, .whole _
  | .string _, .real _ | .string _, .array _ | .string _, .object _ | .array _, .null
  | .array _, .bool _ | .array _, .whole _ | .array _, .real _ | .array _, .string _
  | .array _, .object _ | .object _, .null | .object _, .bool _
  | .object _, .whole _ | .object _, .real _ | .object _, .string _ | .object _, .array _ =>
    isFalse (by simp)

def decEqItems : (a b : List Json) → Decidable (a = b)
  | [], [] => isTrue rfl
  | [], _ :: _ | _ :: _, [] => isFalse (by simp)
  | a :: as, b :: bs => match decEq a b, decEqItems as bs with
    | isTrue h, isTrue hs => isTrue (h ▸ hs ▸ rfl)
    | isFalse h, _ => isFalse (by simp [h])
    | _, isFalse h => isFalse (by simp [h])

def decEqMembers : (a b : List (String × Json)) → Decidable (a = b)
  | [], [] => isTrue rfl
  | [], _ :: _ | _ :: _, [] => isFalse (by simp)
  | (j, a) :: as, (k, b) :: bs =>
    if hk : j = k then match decEq a b, decEqMembers as bs with
      | isTrue h, isTrue hs => isTrue (hk ▸ h ▸ hs ▸ rfl)
      | isFalse h, _ => isFalse (by simp [h])
      | _, isFalse h => isFalse (by simp [h])
    else isFalse (by simp [hk])

end

instance : DecidableEq Json := decEq

/-! ## Members -/

/-- Members with one more, in rising order of names. A member of the same name is replaced. -/
def insert (name : String) (value : Json) : List (String × Json) → List (String × Json)
  | [] => [(name, value)]
  | (n, v) :: rest =>
    if name < n then (name, value) :: (n, v) :: rest
    else if name = n then (name, value) :: rest
    else (n, v) :: insert name value rest

/-- Members added one after the other to those that are there. -/
def insertAll (members : List (String × Json)) : List (String × Json) → List (String × Json)
  | [] => members
  | (name, value) :: rest => insertAll (insert name value members) rest

/-- The value of a name. -/
def lookup (name : String) : List (String × Json) → Option Json
  | [] => none
  | (n, v) :: rest => if n = name then some v else lookup name rest

/-- Names in rising order, each once. -/
def Sorted (members : List (String × Json)) : Prop :=
  members.Pairwise fun a b => a.1 < b.1

theorem insert_mem {name : String} {value : Json} {members : List (String × Json)}
    {m : String × Json} (h : m ∈ insert name value members) : m = (name, value) ∨ m ∈ members := by
  induction members with
  | nil => exact Or.inl (by simpa [insert] using h)
  | cons head rest ih =>
    obtain ⟨n, v⟩ := head
    rw [insert] at h
    split at h
    · simpa using h
    · split at h
      · rcases List.mem_cons.1 h with h | h
        · exact Or.inl h
        · exact Or.inr (List.mem_cons_of_mem _ h)
      · rcases List.mem_cons.1 h with h | h
        · exact Or.inr (h ▸ List.mem_cons_self ..)
        · exact (ih h).imp id (List.mem_cons_of_mem _)

theorem sorted_insert {name : String} {value : Json} {members : List (String × Json)}
    (h : Sorted members) : Sorted (insert name value members) := by
  induction members with
  | nil => simp [insert, Sorted]
  | cons head rest ih =>
    obtain ⟨n, v⟩ := head
    obtain ⟨hhead, hrest⟩ := List.pairwise_cons.1 h
    rw [insert]
    split
    · rename_i hlt
      refine List.pairwise_cons.2 ⟨fun m hm => ?_, h⟩
      rcases List.mem_cons.1 hm with rfl | hm
      · exact hlt
      · exact String.lt_trans hlt (hhead m hm)
    · rename_i hlt
      split
      · rename_i heq
        subst heq
        exact List.pairwise_cons.2 ⟨hhead, hrest⟩
      · rename_i hne
        have hgt : n < name := by
          rcases Std.lt_trichotomy name n with h | h | h
          · exact absurd h hlt
          · exact absurd h hne
          · exact h
        refine List.pairwise_cons.2 ⟨fun m hm => ?_, ih hrest⟩
        rcases insert_mem hm with rfl | hm
        · exact hgt
        · exact hhead m hm

theorem sorted_insertAll {members added : List (String × Json)} (h : Sorted members) :
    Sorted (insertAll members added) := by
  induction added generalizing members with
  | nil => exact h
  | cons m rest ih => exact ih (sorted_insert h)

/-! ## Canonical values -/

mutual

/-- Every object within has its names in rising order, each once. -/
def Canonical : Json → Prop
  | .array items => CanonicalItems items
  | .object members => Sorted members ∧ CanonicalMembers members
  | .null | .bool _ | .whole _ | .real _ | .string _ => True

def CanonicalItems : List Json → Prop
  | [] => True
  | v :: rest => Canonical v ∧ CanonicalItems rest

def CanonicalMembers : List (String × Json) → Prop
  | [] => True
  | (_, v) :: rest => Canonical v ∧ CanonicalMembers rest

end

mutual

/-- The canonical form: later members of a name replace earlier ones, at every level. -/
def canonical : Json → Json
  | .array items => .array (canonicalItems items)
  | .object members => .object (insertAll [] (canonicalMembers members))
  | v => v

def canonicalItems : List Json → List Json
  | [] => []
  | v :: rest => canonical v :: canonicalItems rest

def canonicalMembers : List (String × Json) → List (String × Json)
  | [] => []
  | (name, v) :: rest => (name, canonical v) :: canonicalMembers rest

end

theorem canonicalMembers_insert {name : String} {value : Json} {members : List (String × Json)}
    (hvalue : value.Canonical) (hmembers : CanonicalMembers members) :
    CanonicalMembers (insert name value members) := by
  induction members with
  | nil => exact ⟨hvalue, trivial⟩
  | cons head rest ih =>
    obtain ⟨n, v⟩ := head
    obtain ⟨hv, hrest⟩ := hmembers
    rw [insert]
    split
    · exact ⟨hvalue, hv, hrest⟩
    · split
      · exact ⟨hvalue, hrest⟩
      · exact ⟨hv, ih hrest⟩

theorem canonicalMembers_insertAll {members added : List (String × Json)}
    (hmembers : CanonicalMembers members) (hadded : CanonicalMembers added) :
    CanonicalMembers (insertAll members added) := by
  induction added generalizing members with
  | nil => exact hmembers
  | cons head rest ih =>
    exact ih (canonicalMembers_insert hadded.1 hmembers) hadded.2

mutual

theorem canonical_canonical : (v : Json) → v.canonical.Canonical
  | .null | .bool _ | .whole _ | .real _ | .string _ => by simp [canonical, Canonical]
  | .array items => canonicalItems_canonical items
  | .object members =>
    ⟨sorted_insertAll List.Pairwise.nil,
      canonicalMembers_insertAll trivial (canonicalMembers_canonical members)⟩

theorem canonicalItems_canonical : (items : List Json) → CanonicalItems (canonicalItems items)
  | [] => trivial
  | v :: rest => ⟨canonical_canonical v, canonicalItems_canonical rest⟩

theorem canonicalMembers_canonical :
    (members : List (String × Json)) → CanonicalMembers (canonicalMembers members)
  | [] => trivial
  | (_, v) :: rest => ⟨canonical_canonical v, canonicalMembers_canonical rest⟩

end

end Json

end AccessDecision
