import AccessDecision.Bytes

set_option autoImplicit false

/-! # The SHA-2 family

One compression function, over words of `w` bits, serves the whole family: the members differ in
word size, rotation amounts, round constants, starting state and in how many words of the final
state they show. `Sha2.digest` is total and its length is fixed by the member (`length_digest`). -/

namespace AccessDecision.Digest

/-- The eight working words. -/
structure State (w : Nat) where
  a : BitVec w
  b : BitVec w
  c : BitVec w
  d : BitVec w
  e : BitVec w
  f : BitVec w
  g : BitVec w
  h : BitVec w

namespace State

variable {w : Nat}

def toList (s : State w) : List (BitVec w) :=
  [s.a, s.b, s.c, s.d, s.e, s.f, s.g, s.h]

/-- Word by word, modulo `2 ^ w`. -/
def add (s t : State w) : State w :=
  ⟨s.a + t.a, s.b + t.b, s.c + t.c, s.d + t.d, s.e + t.e, s.f + t.f, s.g + t.g, s.h + t.h⟩

end State

/-- Three amounts by which a word is turned or shifted before the results are combined. -/
structure Turns where
  first : Nat
  second : Nat
  third : Nat

/-- One member of the family. -/
structure Sha2 (w : Nat) where
  /-- The state before the first block. -/
  start : State w
  /-- One constant a round. -/
  constants : List (BitVec w)
  /-- Rotations of the `a` word in a round. -/
  upperA : Turns
  /-- Rotations of the `e` word in a round. -/
  upperE : Turns
  /-- Two rotations and a shift of the message word fifteen places back. -/
  lower15 : Turns
  /-- Two rotations and a shift of the message word two places back. -/
  lower2 : Turns
  /-- How many words of the final state are shown. -/
  shown : Nat
  shown_le : shown ≤ 8 := by decide

namespace Sha2

variable {w : Nat}

/-- A block is sixteen words. -/
def blockSize (w : Nat) : Nat := 16 * (w / 8)

/-- How many bytes a digest has. -/
def size (v : Sha2 w) : Nat := v.shown * (w / 8)

def rotations (t : Turns) (x : BitVec w) : BitVec w :=
  x.rotateRight t.first ^^^ x.rotateRight t.second ^^^ x.rotateRight t.third

def rotationsAndShift (t : Turns) (x : BitVec w) : BitVec w :=
  x.rotateRight t.first ^^^ x.rotateRight t.second ^^^ (x >>> t.third)

/-- Picks bits of `f` where `e` is set and of `g` elsewhere. -/
def choose (e f g : BitVec w) : BitVec w := (e &&& f) ^^^ (~~~e &&& g)

/-- Each bit is the one that at least two of the three words have. -/
def majority (a b c : BitVec w) : BitVec w := (a &&& b) ^^^ (a &&& c) ^^^ (b &&& c)

/-- One round, with its constant and its message word. -/
def round (v : Sha2 w) (s : State w) (constant word : BitVec w) : State w :=
  let t := s.h + rotations v.upperE s.e + choose s.e s.f s.g + constant + word
  let u := rotations v.upperA s.a + majority s.a s.b s.c
  ⟨t + u, s.a, s.b, s.c, s.d + t, s.e, s.f, s.g⟩

/-- The message word that follows a window of sixteen. -/
def nextWord (v : Sha2 w) (window : List (BitVec w)) : BitVec w :=
  rotationsAndShift v.lower2 (window.getD 14 0) + window.getD 9 0 +
    rotationsAndShift v.lower15 (window.getD 1 0) + window.getD 0 0

/-- All rounds. The window holds the message word of this round and the fifteen after it. -/
def rounds (v : Sha2 w) : List (BitVec w) → List (BitVec w) → State w → State w
  | [], _, s => s
  | k :: ks, window, s =>
    rounds v ks (window.tail ++ [nextWord v window]) (round v s k (window.getD 0 0))

/-- The first sixteen words of a block. -/
def words (w : Nat) (block : Bytes) : List (BitVec w) :=
  (List.range 16).map fun i =>
    BitVec.ofNat w (Bytes.toNat ((block.drop (i * (w / 8))).take (w / 8)))

/-- The state after one more block. -/
def compress (v : Sha2 w) (s : State w) (block : Bytes) : State w :=
  s.add (rounds v v.constants (words w block) s)

/-- A message, a one bit, zeros, and the message's length in bits: a whole number of blocks. -/
def padded (w : Nat) (message : Bytes) : Bytes :=
  let lengthSize := 2 * (w / 8)
  let used := message.length + 1 + lengthSize
  let zeros := (blockSize w - used % blockSize w) % blockSize w
  message ++ 0x80 :: List.replicate zeros 0 ++ Bytes.bigEndian lengthSize (8 * message.length)

/-- A byte string cut into its whole blocks. -/
def blocks (size : Nat) (bytes : Bytes) : List Bytes :=
  (List.range (bytes.length / size)).map fun i => (bytes.drop (i * size)).take size

/-- The digest of a message. -/
def digest (v : Sha2 w) (message : Bytes) : Bytes :=
  let final := (blocks (blockSize w) (padded w message)).foldl (compress v) v.start
  (final.toList.take v.shown).flatMap fun word => Bytes.bigEndian (w / 8) word.toNat

theorem length_flatMap_bigEndian (width : Nat) (ws : List (BitVec w)) :
    (ws.flatMap fun word => Bytes.bigEndian width word.toNat).length = ws.length * width := by
  induction ws with
  | nil => simp
  | cons word ws ih => rw [List.flatMap_cons, List.length_append, ih, List.length_cons,
      Nat.succ_mul, Bytes.length_bigEndian, Nat.add_comm]

theorem length_digest (v : Sha2 w) (message : Bytes) : (v.digest message).length = v.size := by
  have hshown : min v.shown 8 = v.shown := Nat.min_eq_left v.shown_le
  rw [digest, length_flatMap_bigEndian, List.length_take]
  simp [size, State.toList, hshown]

end Sha2

/-! ## Members -/

def sha256 : Sha2 32 where
  start := ⟨0x6a09e667, 0xbb67ae85, 0x3c6ef372, 0xa54ff53a,
    0x510e527f, 0x9b05688c, 0x1f83d9ab, 0x5be0cd19⟩
  constants := [
    0x428a2f98, 0x71374491, 0xb5c0fbcf, 0xe9b5dba5, 0x3956c25b, 0x59f111f1, 0x923f82a4, 0xab1c5ed5,
    0xd807aa98, 0x12835b01, 0x243185be, 0x550c7dc3, 0x72be5d74, 0x80deb1fe, 0x9bdc06a7, 0xc19bf174,
    0xe49b69c1, 0xefbe4786, 0x0fc19dc6, 0x240ca1cc, 0x2de92c6f, 0x4a7484aa, 0x5cb0a9dc, 0x76f988da,
    0x983e5152, 0xa831c66d, 0xb00327c8, 0xbf597fc7, 0xc6e00bf3, 0xd5a79147, 0x06ca6351, 0x14292967,
    0x27b70a85, 0x2e1b2138, 0x4d2c6dfc, 0x53380d13, 0x650a7354, 0x766a0abb, 0x81c2c92e, 0x92722c85,
    0xa2bfe8a1, 0xa81a664b, 0xc24b8b70, 0xc76c51a3, 0xd192e819, 0xd6990624, 0xf40e3585, 0x106aa070,
    0x19a4c116, 0x1e376c08, 0x2748774c, 0x34b0bcb5, 0x391c0cb3, 0x4ed8aa4a, 0x5b9cca4f, 0x682e6ff3,
    0x748f82ee, 0x78a5636f, 0x84c87814, 0x8cc70208, 0x90befffa, 0xa4506ceb, 0xbef9a3f7, 0xc67178f2]
  upperA := ⟨2, 13, 22⟩
  upperE := ⟨6, 11, 25⟩
  lower15 := ⟨7, 18, 3⟩
  lower2 := ⟨17, 19, 10⟩
  shown := 8

/-- The round constants of the members with words of 64 bits. -/
def longConstants : List (BitVec 64) := [
    0x428a2f98d728ae22, 0x7137449123ef65cd, 0xb5c0fbcfec4d3b2f, 0xe9b5dba58189dbbc,
    0x3956c25bf348b538, 0x59f111f1b605d019, 0x923f82a4af194f9b, 0xab1c5ed5da6d8118,
    0xd807aa98a3030242, 0x12835b0145706fbe, 0x243185be4ee4b28c, 0x550c7dc3d5ffb4e2,
    0x72be5d74f27b896f, 0x80deb1fe3b1696b1, 0x9bdc06a725c71235, 0xc19bf174cf692694,
    0xe49b69c19ef14ad2, 0xefbe4786384f25e3, 0x0fc19dc68b8cd5b5, 0x240ca1cc77ac9c65,
    0x2de92c6f592b0275, 0x4a7484aa6ea6e483, 0x5cb0a9dcbd41fbd4, 0x76f988da831153b5,
    0x983e5152ee66dfab, 0xa831c66d2db43210, 0xb00327c898fb213f, 0xbf597fc7beef0ee4,
    0xc6e00bf33da88fc2, 0xd5a79147930aa725, 0x06ca6351e003826f, 0x142929670a0e6e70,
    0x27b70a8546d22ffc, 0x2e1b21385c26c926, 0x4d2c6dfc5ac42aed, 0x53380d139d95b3df,
    0x650a73548baf63de, 0x766a0abb3c77b2a8, 0x81c2c92e47edaee6, 0x92722c851482353b,
    0xa2bfe8a14cf10364, 0xa81a664bbc423001, 0xc24b8b70d0f89791, 0xc76c51a30654be30,
    0xd192e819d6ef5218, 0xd69906245565a910, 0xf40e35855771202a, 0x106aa07032bbd1b8,
    0x19a4c116b8d2d0c8, 0x1e376c085141ab53, 0x2748774cdf8eeb99, 0x34b0bcb5e19b48a8,
    0x391c0cb3c5c95a63, 0x4ed8aa4ae3418acb, 0x5b9cca4f7763e373, 0x682e6ff3d6b2b8a3,
    0x748f82ee5defb2fc, 0x78a5636f43172f60, 0x84c87814a1f0ab72, 0x8cc702081a6439ec,
    0x90befffa23631e28, 0xa4506cebde82bde9, 0xbef9a3f7b2c67915, 0xc67178f2e372532b,
    0xca273eceea26619c, 0xd186b8c721c0c207, 0xeada7dd6cde0eb1e, 0xf57d4f7fee6ed178,
    0x06f067aa72176fba, 0x0a637dc5a2c898a6, 0x113f9804bef90dae, 0x1b710b35131c471b,
    0x28db77f523047d84, 0x32caab7b40c72493, 0x3c9ebe0a15c9bebc, 0x431d67c49c100d4c,
    0x4cc5d4becb3e42b6, 0x597f299cfc657e2a, 0x5fcb6fab3ad6faec, 0x6c44198c4a475817]

def sha512 : Sha2 64 where
  start := ⟨0x6a09e667f3bcc908, 0xbb67ae8584caa73b, 0x3c6ef372fe94f82b, 0xa54ff53a5f1d36f1,
    0x510e527fade682d1, 0x9b05688c2b3e6c1f, 0x1f83d9abfb41bd6b, 0x5be0cd19137e2179⟩
  constants := longConstants
  upperA := ⟨28, 34, 39⟩
  upperE := ⟨14, 18, 41⟩
  lower15 := ⟨1, 8, 7⟩
  lower2 := ⟨19, 61, 6⟩
  shown := 8

/-- Another starting state, and a digest of six words. -/
def sha384 : Sha2 64 := { sha512 with
  start := ⟨0xcbbb9d5dc1059ed8, 0x629a292a367cd507, 0x9159015a3070dd17, 0x152fecd8f70e5939,
    0x67332667ffc00b31, 0x8eb44a8768581511, 0xdb0c2e0d64f98fa7, 0x47b5481dbefa4fa4⟩
  shown := 6
  shown_le := by decide }

end AccessDecision.Digest
