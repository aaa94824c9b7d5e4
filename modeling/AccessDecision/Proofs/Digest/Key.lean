import AccessDecision.Digest.Hmac
import Mathlib.Data.FinEnum
import Mathlib.Data.Fintype.BigOperators
import Mathlib.Data.Fintype.Pigeonhole

set_option autoImplicit false

/-! # When two keys sign alike

The zeros that fill up a block cannot be told from zeros at the end of a key, and a long key not
from its digest. Keys that differ in no other way (`Hmac.SameKey`) sign every message alike. Any
other two sign a message alike only by a collision of the digest itself, between two texts that can
be written down (`Hmac.mac_eq_iff`). Such keys exist, as signatures are shorter than keys may be
(`exists_same_result`). -/

namespace AccessDecision.Digest

/-- Two different messages with one digest. -/
structure Collision (h : Hash) (x y : Bytes) : Prop where
  ne : x ≠ y
  digest_eq : h.digest x = h.digest y

theorem digest_eq_iff {h : Hash} {x y : Bytes} :
    h.digest x = h.digest y ↔ x = y ∨ Collision h x y := by
  constructor
  · intro hdigest
    by_cases heq : x = y
    · exact Or.inl heq
    · exact Or.inr ⟨heq, hdigest⟩
  · rintro (rfl | hcollision)
    · rfl
    · exact hcollision.digest_eq

/-- A function to byte strings of a fixed length takes the same value at two longer ones. -/
theorem exists_same_result {size : Nat} (f : Bytes → Bytes)
    (hf : ∀ bytes, (f bytes).length = size) :
    ∃ x y : Bytes, x.length = size + 1 ∧ y.length = size + 1 ∧ x ≠ y ∧ f x = f y := by
  let g (v : List.Vector UInt8 (size + 1)) : List.Vector UInt8 size := ⟨f v.1, hf v.1⟩
  have hcard : Fintype.card (List.Vector UInt8 size) <
      Fintype.card (List.Vector UInt8 (size + 1)) := by
    rw [card_vector, card_vector]
    exact Nat.pow_lt_pow_right (Fintype.one_lt_card_iff.2 ⟨0, 1, by decide⟩) (Nat.lt_succ_self size)
  obtain ⟨x, y, hne, heq⟩ := Fintype.exists_ne_map_eq_of_card_lt g hcard
  exact ⟨x.1, y.1, x.2, y.2, fun h => hne (Subtype.ext h), congrArg Subtype.val heq⟩

/-! ## Filling up -/

section Filling

variable {α : Type} {a : α} {xs ys : List α} {n : Nat}

theorem append_replicate_of_le (hxs : xs.length ≤ ys.length) (hys : ys.length ≤ n)
    (h : xs ++ List.replicate (n - xs.length) a = ys ++ List.replicate (n - ys.length) a) :
    ys = xs ++ List.replicate (ys.length - xs.length) a := by
  have htake := congrArg (List.take ys.length) h
  rw [List.take_left, List.take_append, List.take_of_length_le hxs, List.take_replicate,
    Nat.min_eq_left (by omega)] at htake
  exact htake.symm

/-- Two lists that are filled up to one length are the same if one is the other and some of the
    filling. -/
theorem append_replicate_eq_iff (hxs : xs.length ≤ n) (hys : ys.length ≤ n) :
    xs ++ List.replicate (n - xs.length) a = ys ++ List.replicate (n - ys.length) a ↔
      ∃ k, ys = xs ++ List.replicate k a ∨ xs = ys ++ List.replicate k a := by
  have hfill (zs : List α) (k : Nat) (hlength : (zs ++ List.replicate k a).length ≤ n) :
      zs ++ List.replicate (n - zs.length) a = zs ++ List.replicate k a ++
        List.replicate (n - (zs ++ List.replicate k a).length) a := by
    rw [List.length_append, List.length_replicate] at hlength ⊢
    rw [List.append_assoc, List.replicate_append_replicate]
    congr 2
    omega
  constructor
  · intro h
    rcases Nat.le_total xs.length ys.length with hle | hle
    · exact ⟨_, Or.inl (append_replicate_of_le hle hys h)⟩
    · exact ⟨_, Or.inr (append_replicate_of_le hle hxs h.symm)⟩
  · rintro ⟨k, rfl | rfl⟩
    · exact hfill xs k hys
    · exact (hfill ys k hxs).symm

end Filling

namespace Hmac

variable {h : Hash} {key other message : Bytes}

/-! ## Keys -/

/-- A key that fits into a block: its digest, if the key itself does not. -/
def shortened (h : Hash) (key : Bytes) : Bytes :=
  if h.blockSize < key.length then h.digest key else key

/-- Keys that differ in zeros at the end only, once they fit into a block. -/
def SameKey (h : Hash) (key other : Bytes) : Prop :=
  ∃ n, shortened h other = shortened h key ++ List.replicate n 0 ∨
    shortened h key = shortened h other ++ List.replicate n 0

theorem shortened_of_le (hkey : key.length ≤ h.blockSize) : shortened h key = key :=
  if_neg (by omega)

theorem keyBlock_eq (h : Hash) (key : Bytes) : keyBlock h key =
    shortened h key ++ List.replicate (h.blockSize - (shortened h key).length) 0 := rfl

theorem length_shortened_le (hsize : h.size ≤ h.blockSize) :
    (shortened h key).length ≤ h.blockSize := by
  unfold shortened
  split
  · rw [h.length_digest]
    exact hsize
  · omega

theorem length_keyBlock (hsize : h.size ≤ h.blockSize) : (keyBlock h key).length = h.blockSize := by
  have hshort : (shortened h key).length ≤ h.blockSize := length_shortened_le hsize
  rw [keyBlock_eq, List.length_append, List.length_replicate]
  omega

theorem keyBlock_eq_iff (hsize : h.size ≤ h.blockSize) :
    keyBlock h key = keyBlock h other ↔ SameKey h key other :=
  append_replicate_eq_iff (length_shortened_le hsize) (length_shortened_le hsize)

/-! ## Signatures -/

/-- The text whose digest is the signature. -/
def outer (h : Hash) (key message : Bytes) : Bytes :=
  (keyBlock h key).map (· ^^^ 0x5C) ++ h.digest ((keyBlock h key).map (· ^^^ 0x36) ++ message)

theorem mac_eq_digest (h : Hash) (key message : Bytes) :
    mac h key message = h.digest (outer h key message) := rfl

/-- The text begins with the key's block, in disguise. -/
theorem outer_eq_iff (hsize : h.size ≤ h.blockSize) :
    outer h key message = outer h other message ↔ SameKey h key other := by
  rw [← keyBlock_eq_iff hsize]
  constructor
  · intro houter
    have hblocks := (List.append_inj houter (by simp [length_keyBlock hsize])).1
    exact List.map_injective_iff.2 (fun _ _ => (UInt8.xor_left_inj 0x5C).1) hblocks
  · intro hblock
    unfold outer
    rw [hblock]

/-- Two keys sign a message alike exactly if they are the same key for all messages or make the
    digest collide. -/
theorem mac_eq_iff (hsize : h.size ≤ h.blockSize) :
    mac h key message = mac h other message ↔
      SameKey h key other ∨ Collision h (outer h key message) (outer h other message) := by
  rw [mac_eq_digest, mac_eq_digest, digest_eq_iff, outer_eq_iff hsize]

theorem SameKey.mac_eq (hsame : SameKey h key other) (hsize : h.size ≤ h.blockSize)
    (message : Bytes) : mac h key message = mac h other message :=
  mac_eq_of_keyBlock_eq h ((keyBlock_eq_iff hsize).2 hsame) message

/-- Within a block nothing is shortened, so keys of one length are the same key only if they are
    equal. -/
theorem SameKey.eq_of_length_eq (hsame : SameKey h key other) (hsize : h.size ≤ h.blockSize)
    (hkey : key.length ≤ h.blockSize) (hlength : key.length = other.length) : key = other := by
  have hblock := (keyBlock_eq_iff hsize).2 hsame
  rw [keyBlock_eq, keyBlock_eq, shortened_of_le hkey, shortened_of_le (hlength ▸ hkey)] at hblock
  exact (List.append_inj hblock hlength).1

end Hmac

end AccessDecision.Digest
