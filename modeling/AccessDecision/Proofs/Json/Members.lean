import AccessDecision.Json.Read
import AccessDecision.Proofs.Outcome
import Mathlib.Data.List.Nodup

set_option autoImplicit false

/-! # The members of an object

An object that is read off a text keeps of each name the last value that is written for it:
`read_eq_ok_object_iff` says which texts hold objects, with their members as they are written, and
`lookup_insertAll` what becomes of these. -/

namespace AccessDecision.Json

open Outcome

/-! ## Looking up names -/

variable {name other : String} {v : Json} {members added : List (String × Json)}

theorem lookup_append :
    lookup name (members ++ added) = (lookup name members).or (lookup name added) := by
  induction members with
  | nil => rfl
  | cons m members ih =>
    obtain ⟨n, w⟩ := m
    simp only [List.cons_append, lookup]
    split
    · rfl
    · exact ih

/-- A member that is put in shows under its name and changes nothing else. -/
theorem lookup_insert :
    lookup name (insert other v members) =
      if other = name then some v else lookup name members := by
  induction members with
  | nil => rfl
  | cons m members ih =>
    obtain ⟨n, w⟩ := m
    rw [insert]
    split
    · rfl
    split
    · -- the member of this name gives way
      rename_i heq
      subst heq
      simp only [lookup]
      split <;> rfl
    · rename_i hne
      simp only [lookup, ih]
      split
      · rename_i heq
        rw [if_neg (by rintro rfl; exact hne heq.symm)]
      · rfl

/-- The value that is written last for a name. -/
def last (name : String) (written : List (String × Json)) : Option Json :=
  lookup name written.reverse

/-- Of several members of one name the last one counts. -/
theorem lookup_insertAll :
    lookup name (insertAll members added) = (last name added).or (lookup name members) := by
  induction added generalizing members with
  | nil => rfl
  | cons m added ih =>
    obtain ⟨n, w⟩ := m
    have hlast : last name ((n, w) :: added) = (last name added).or (lookup name [(n, w)]) := by
      rw [last, List.reverse_cons, lookup_append, last]
    rw [insertAll, ih, lookup_insert, hlast, Option.or_assoc]
    congr 1
    simp only [lookup]
    split <;> rfl

theorem lookup_eq_none_iff : lookup name members = none ↔ name ∉ members.map Prod.fst := by
  induction members with
  | nil => simp [lookup]
  | cons m members ih =>
    obtain ⟨n, w⟩ := m
    by_cases hn : n = name
    · simp [lookup, hn]
    · rw [lookup, if_neg hn, ih, List.map_cons, List.mem_cons, not_or]
      exact ⟨fun h => ⟨Ne.symm hn, h⟩, And.right⟩

/-! ## Names that stand once -/

theorem nodup_of_sorted (h : Sorted members) : (members.map Prod.fst).Nodup := by
  rw [List.Nodup, List.pairwise_map]
  refine h.imp ?_
  intro m n hlt heq
  rw [heq] at hlt
  exact String.lt_irrefl _ hlt

/-- The first value of a name. -/
theorem lookup_eq_head? :
    lookup name members = ((members.filter fun m => m.1 = name).map Prod.snd).head? := by
  induction members with
  | nil => rfl
  | cons m members ih =>
    obtain ⟨n, w⟩ := m
    by_cases hn : n = name
    · simp [lookup, hn]
    · simp [lookup, hn, ih]

/-- How often a name occurs. -/
theorem count_eq_length :
    (members.map Prod.fst).count name = (members.filter fun m => m.1 = name).length := by
  rw [List.count, List.countP_map, List.countP_eq_length_filter]
  rfl

/-- Where each name stands once, a look-up finds all that is there. -/
theorem filter_eq_toList (hmembers : (members.map Prod.fst).Nodup) :
    (members.filter fun m => m.1 = name).map Prod.snd = (lookup name members).toList := by
  have hcount := List.nodup_iff_count_le_one.1 hmembers name
  rw [count_eq_length] at hcount
  rw [lookup_eq_head?]
  generalize (members.filter fun m => decide (m.1 = name)) = found at hcount
  match found, hcount with
  | [], _ => rfl
  | [_], _ => rfl
  | _ :: _ :: _, h => exact absurd h (by simp)

/-- Where each name stands once, the members are what look-ups find. -/
theorem mem_iff_lookup (hmembers : (members.map Prod.fst).Nodup) :
    (name, v) ∈ members ↔ lookup name members = some v := by
  have hmem : (name, v) ∈ members ↔
      v ∈ (members.filter fun m => m.1 = name).map Prod.snd := by
    simp [List.mem_map, List.mem_filter]
  rw [hmem, filter_eq_toList hmembers, Option.mem_toList]

/-- With each name once, the order does not matter to a look-up. -/
theorem lookup_eq_of_perm (hmembers : (members.map Prod.fst).Nodup) (h : members.Perm added) :
    lookup name members = lookup name added := by
  have hadded : (added.map Prod.fst).Nodup := (h.map Prod.fst).nodup_iff.1 hmembers
  ext v
  rw [← mem_iff_lookup hmembers, ← mem_iff_lookup hadded, h.mem_iff]

theorem lookup_reverse (hmembers : (members.map Prod.fst).Nodup) :
    lookup name members.reverse = lookup name members :=
  (lookup_eq_of_perm hmembers (List.reverse_perm members).symm).symm

/-- A member of a new name is added, wherever it comes to stand. -/
theorem insert_perm (hname : name ∉ members.map Prod.fst) :
    (insert name v members).Perm ((name, v) :: members) := by
  induction members with
  | nil => exact .refl _
  | cons m members ih =>
    obtain ⟨n, w⟩ := m
    rw [List.map_cons, List.mem_cons, not_or] at hname
    rw [insert]
    split
    · exact .refl _
    · rw [if_neg hname.1]
      exact ((ih hname.2).cons _).trans (.swap _ _ _)

/-- Members of names that differ are all there, whatever their order. -/
theorem insertAll_perm (hnames : ((members ++ added).map Prod.fst).Nodup) :
    (insertAll members added).Perm (members ++ added) := by
  induction added generalizing members with
  | nil => rw [insertAll, List.append_nil]
  | cons m added ih =>
    obtain ⟨n, w⟩ := m
    have hmiddle : (members ++ (n, w) :: added).Perm ((n, w) :: (members ++ added)) :=
      List.perm_middle
    have hcons : (((n, w) :: (members ++ added)).map Prod.fst).Nodup :=
      (hmiddle.map Prod.fst).nodup_iff.1 hnames
    have hnew : n ∉ members.map Prod.fst := by
      intro hn
      refine (List.nodup_cons.1 hcons).1 ?_
      rw [List.map_append]
      exact List.mem_append_left _ hn
    have hinsert := (insert_perm (v := w) hnew).append_right added
    refine ((ih ?_).trans hinsert).trans hmiddle.symm
    exact (hinsert.map Prod.fst).nodup_iff.2 hcons

/-- There is one way to put members in order. -/
theorem eq_of_perm (hmembers : Sorted members) (hadded : Sorted added)
    (h : members.Perm added) : members = added := by
  refine h.eq_of_pairwise ?_ hmembers hadded
  intro m n _ _ hlt hgt
  exact absurd (String.lt_trans hlt hgt) (String.lt_irrefl _)

/-- Members in order stay as they are. -/
theorem insertAll_of_sorted (h : Sorted members) : insertAll [] members = members :=
  eq_of_perm (sorted_insertAll List.Pairwise.nil) h (insertAll_perm (nodup_of_sorted h))

/-- Members in order are told by what look-ups find. -/
theorem eq_of_lookup_eq (hmembers : Sorted members) (hadded : Sorted added)
    (h : ∀ name, lookup name members = lookup name added) : members = added := by
  refine eq_of_perm hmembers hadded ((List.perm_ext_iff_of_nodup (nodup_of_sorted hmembers).of_map
    (nodup_of_sorted hadded).of_map).2 ?_)
  rintro ⟨name, v⟩
  rw [mem_iff_lookup (nodup_of_sorted hmembers), mem_iff_lookup (nodup_of_sorted hadded), h]

/-! ## Members of some names -/

/-- The members of some names, in the order of the names. -/
def pick (names : List String) (members : List (String × Json)) : List (String × Json) :=
  names.filterMap fun name => (lookup name members).map fun v => (name, v)

theorem pick_cons {names : List String} :
    pick (name :: names) members =
      ((lookup name members).toList.map fun v => (name, v)) ++ pick names members := by
  rw [pick, List.filterMap_cons]
  cases lookup name members <;> rfl

theorem lookup_pick {names : List String} :
    lookup name (pick names members) = if name ∈ names then lookup name members else none := by
  induction names with
  | nil => rfl
  | cons n names ih =>
    rw [pick_cons, lookup_append, ih]
    by_cases hname : n = name
    · subst hname
      cases hn : lookup n members with
      | none => simp [lookup]
      | some v => simp [lookup]
    · have hother : lookup name ((lookup n members).toList.map fun v => (n, v)) = none := by
        cases lookup n members <;> simp [lookup, hname]
      simp [hother, Ne.symm hname]

theorem sorted_pick {names : List String} (h : names.Pairwise (· < ·)) :
    Sorted (pick names members) := by
  refine h.filterMap _ ?_
  intro m n hlt a ha b hb
  obtain ⟨v, -, rfl⟩ := Option.map_eq_some_iff.1 ha
  obtain ⟨w, -, rfl⟩ := Option.map_eq_some_iff.1 hb
  exact hlt

/-! ## Objects in texts -/

/-- A text that holds an object, with its members as they are written. -/
def Writes (body : Bytes) (written : List (String × Json)) : Prop :=
  ∃ s rest, skipSpace body = openBrace :: s ∧
    readMembers (2 * body.length + 1) (depthLimit - 1) true s = .ok (written, rest) ∧
    readEnd rest = .ok ()

/-- A whole text is read if its value is, and nothing but space follows it. -/
theorem readAll_eq_ok_iff {α : Type} {reader : Bytes → Except Fault (α × Bytes)} {input : Bytes}
    {value : α} :
    readAll reader input = .ok value ↔ ∃ rest, reader input = .ok (value, rest) ∧
      readEnd rest = .ok () := by
  rw [readAll]
  simp only [mapError_eq_ok_iff, bind_eq_ok_iff]
  constructor
  · rintro ⟨⟨w, rest⟩, hread, ⟨⟩, hend, hvalue⟩
    simp only [Except.ok.injEq] at hvalue
    exact ⟨rest, hvalue ▸ hread, hend⟩
  · rintro ⟨rest, hread, hend⟩
    exact ⟨(value, rest), hread, (), hend, rfl⟩

/-! ### Values without parts -/

/-- A reader that gives neither lists nor objects. -/
def Simple (outcome : Except Fault (Json × Bytes)) : Prop :=
  ∀ v rest, outcome = .ok (v, rest) → v.shape ≠ .sequence ∧ v.shape ≠ .map

theorem simple_error (fault : Fault) : Simple (.error fault) := by
  intro v rest h
  exact absurd h (by simp)

theorem simple_ok {v : Json} {rest : Bytes} (hlist : v.shape ≠ .sequence) (hmap : v.shape ≠ .map) :
    Simple (.ok (v, rest)) := by
  intro w rest' h
  simp only [Except.ok.injEq, Prod.mk.injEq] at h
  rw [← h.1]
  exact ⟨hlist, hmap⟩

theorem simple_realFrom (negative : Bool) (significand : Nat) (exponent : Int) (rest : Bytes) :
    Simple (realFrom negative significand exponent rest) := by
  unfold realFrom
  split
  · exact simple_ok (by simp [shape]) (by simp [shape])
  · exact simple_error _

theorem simple_readExponent (negative : Bool) (significand : Nat) (exponent : Int) (s : Bytes) :
    Simple (readExponent negative significand exponent s) := by
  have hreal := simple_realFrom negative significand
  have hzero (rest : Bytes) : Simple (.ok (.real (.zero negative), rest)) :=
    simple_ok (by simp [shape]) (by simp [shape])
  have herror := simple_error
  unfold readExponent
  split
  · exact hreal _ _
  · grind

theorem simple_wholeOrReal (negative : Bool) (significand : Nat) (rest : Bytes) :
    Simple (wholeOrReal negative significand rest) := by
  unfold wholeOrReal
  simp only
  split
  · exact simple_realFrom _ _ _ _
  split
  · exact simple_ok (by simp [shape]) (by simp [shape])
  · exact simple_realFrom _ _ _ _

theorem simple_readFraction (negative : Bool) (digits : List Nat) (s : Bytes) :
    Simple (readFraction negative digits s) := by
  have hreal := simple_realFrom negative
  have hwhole := simple_wholeOrReal negative
  have hexponent := simple_readExponent negative
  have herror := simple_error
  unfold readFraction
  grind

theorem simple_readNumber (negative : Bool) (s : Bytes) : Simple (readNumber negative s) := by
  have hfraction := simple_readFraction negative
  have herror := simple_error
  unfold readNumber
  grind

theorem simple_map {α : Type} {outcome : Except Fault α} {f : α → Json × Bytes}
    (hlist : ∀ a, (f a).1.shape ≠ .sequence) (hmap : ∀ a, (f a).1.shape ≠ .map) :
    Simple (outcome.map f) := by
  cases outcome with
  | error fault => exact simple_error fault
  | ok a => exact simple_ok (hlist a) (hmap a)

/-- A word, a number and a string have no parts. -/
theorem simple_readScalar (s : Bytes) : Simple (readScalar s) := by
  unfold readScalar
  split
  · exact simple_error _
  -- the words, the two kinds of numbers, a string, or nothing of these
  split
  · exact simple_map (by simp [shape]) (by simp [shape])
  split
  · exact simple_map (by simp [shape]) (by simp [shape])
  split
  · exact simple_map (by simp [shape]) (by simp [shape])
  split
  · exact simple_readNumber _ _
  split
  · exact simple_readNumber _ _
  split
  · exact simple_map (by simp [shape]) (by simp [shape])
  · exact simple_error _

/-! ### Objects -/

/-- An object is read exactly off a text that writes one. -/
theorem read_eq_ok_object_iff {body : Bytes} :
    read body = .ok (.object members) ↔
      ∃ written, Writes body written ∧ members = insertAll [] written := by
  rw [read, readAll_eq_ok_iff]
  constructor
  · rintro ⟨rest, hread, hend⟩
    rw [readValue] at hread
    split at hread
    · exact absurd hread (by simp)
    rename_i b r hskip
    split at hread
    · -- a list
      rw [if_neg (by decide)] at hread
      obtain ⟨items, -, hitems⟩ := bind_eq_ok_iff.1 hread
      exact absurd hitems (by simp)
    split at hread
    · rename_i hbrace
      rw [if_neg (by decide)] at hread
      obtain ⟨⟨written, rest'⟩, hmembers, hobject⟩ := bind_eq_ok_iff.1 hread
      simp only [Except.ok.injEq, Prod.mk.injEq, Json.object.injEq] at hobject
      obtain ⟨rfl, rfl⟩ := hobject
      exact ⟨written, ⟨r, rest', hbrace ▸ hskip, hmembers, hend⟩, rfl⟩
    · exact absurd rfl (simple_readScalar _ _ _ hread).2
  · rintro ⟨written, ⟨r, rest, hskip, hmembers, hend⟩, rfl⟩
    refine ⟨rest, ?_, hend⟩
    rw [readValue, hskip]
    simp only
    rw [if_neg (by decide), if_pos trivial, if_neg (by decide), hmembers]
    rfl

end AccessDecision.Json
