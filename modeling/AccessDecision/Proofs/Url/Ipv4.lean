import AccessDecision.Proofs.Json.Number
import AccessDecision.Proofs.Text.Pieces
import AccessDecision.Url.Ipv4

set_option autoImplicit false

/-! # IPv4 addresses are read from their text

The four decimal numbers of an address have no leading zeros, so each is read as itself, and the
address comes back (`ofDomain?_chars`). Its text is one that must be an address (`isDue_chars`). -/

namespace AccessDecision.Url.Ipv4

open Text

variable {n : Nat} {x : Ipv4} {c : Char}

/-! ## One number -/

theorem hexCharValue?_digit (h : 0x30 ≤ c.toNat ∧ c.toNat ≤ 0x39) :
    hexCharValue? c = some (c.toNat - 48) := by
  have hbyte : (UInt8.ofNat c.toNat).toNat = c.toNat := by
    rw [UInt8.toNat_ofNat']
    omega
  rw [hexCharValue?, if_pos (by omega), hexValue?]
  simp only [hbyte]
  rw [if_pos (by simpa using h)]

theorem ofDigits?_digits {cs : List Char} (h : ∀ c ∈ cs, 0x30 ≤ c.toNat ∧ c.toNat ≤ 0x39) :
    ofDigits? 10 cs = some ((cs.map fun c => c.toNat - 48).foldl (fun m d => 10 * m + d) 0) := by
  suffices hfrom : ∀ m : Nat, cs.foldl (fun n c => do
      let value ← n
      let digit ← hexCharValue? c
      if digit < 10 then some (10 * value + digit) else none) (some m) =
      some ((cs.map fun c => c.toNat - 48).foldl (fun m d => 10 * m + d) m) from hfrom 0
  induction cs with
  | nil => exact fun _ => rfl
  | cons c cs ih =>
    intro m
    obtain ⟨hc, hcs⟩ := List.forall_mem_cons.1 h
    have hlt : c.toNat - 48 < 10 := by omega
    simp only [List.foldl_cons, List.map_cons, hexCharValue?_digit hc, Option.bind_eq_bind,
      Option.bind_some, if_pos hlt]
    exact ih hcs (10 * m + (c.toNat - 48))

theorem natChars_ne_nil (n : Nat) : natChars n ≠ [] := Nat.toDigits_ne_nil

theorem number?_natChars (n : Nat) : number? (natChars n) = some n := by
  rcases Nat.eq_zero_or_pos n with rfl | hpos
  · rfl
  · cases hdigits : natChars n with
    | nil => exact absurd hdigits (natChars_ne_nil n)
    | cons c cs =>
      have hc := Json.head_natChars_ne_zero hpos c cs hdigits
      have hdecimal : number? (c :: cs) = ofDigits? 10 (c :: cs) := by
        unfold number?
        split
        · rename_i hnil
          exact absurd hnil (by simp)
        · rename_i hzero
          exact absurd (List.cons.inj hzero).1 hc
        · rename_i hzero
          exact absurd (List.cons.inj hzero).1 hc
        · rfl
      rw [hdecimal, ← hdigits, ofDigits?_digits fun c hc => Json.isDigit_of_mem_natChars hc,
        Json.foldl_natChars]

/-! ## Four numbers -/

theorem chars_eq (x : Ipv4) : x.chars = natChars x.a.toNat ++ '.' :: (natChars x.b.toNat ++
    '.' :: (natChars x.c.toNat ++ '.' :: natChars x.d.toNat)) := by
  simp [chars, List.intercalate, List.intersperse]

theorem dot_not_mem_natChars (n : Nat) : ∀ c ∈ natChars n, decide (c = '.') = false := by
  intro c hc
  have hdigit := Json.isDigit_of_mem_natChars hc
  rw [decide_eq_false_iff_not]
  rintro rfl
  exact absurd hdigit (by decide)

theorem pieces_chars (x : Ipv4) : pieces (· = '.') x.chars =
    [natChars x.a.toNat, natChars x.b.toNat, natChars x.c.toNat, natChars x.d.toNat] := by
  rw [chars_eq, pieces_append_cons (dot_not_mem_natChars _) (by decide),
    pieces_append_cons (dot_not_mem_natChars _) (by decide),
    pieces_append_cons (dot_not_mem_natChars _) (by decide),
    pieces_eq_singleton (dot_not_mem_natChars _)]

theorem labels_chars (x : Ipv4) : labels x.chars =
    [natChars x.a.toNat, natChars x.b.toNat, natChars x.c.toNat, natChars x.d.toNat] := by
  rw [labels, pieces_chars]
  exact if_neg (by simpa using natChars_ne_nil x.d.toNat)

theorem isDue_chars (x : Ipv4) : isDue x.chars = true := by
  rw [isDue, labels_chars]
  have hdigits : (natChars x.d.toNat).all Char.isDigit = true :=
    List.all_eq_true.2 fun c hc => Char.isDigit_iff_toNat.2 (Json.isDigit_of_mem_natChars hc)
  simp [hdigits, number?_natChars]

/-- Four bytes are put together to a number whose bytes they are. -/
theorem combine?_bytes {a b c d : Nat} (ha : a < 256) (hb : b < 256) (hc : c < 256) (hd : d < 256) :
    combine? [a, b, c, d] = some (0x1000000 * a + 0x10000 * b + 0x100 * c + d) := by
  have hsmall : (d < Nat.pow 256 (4 - [c, b, a].length) && [c, b, a].all (· < 256) &&
      decide ([c, b, a].length < 4)) = true := by
    simp [ha, hb, hc, hd]
  rw [combine?]
  simp only [List.reverse_cons, List.reverse_nil, List.nil_append, List.cons_append]
  rw [if_pos hsmall]
  simp
  omega

theorem ofNat_bytes (x : Ipv4) : ofNat (0x1000000 * x.a.toNat + 0x10000 * x.b.toNat +
    0x100 * x.c.toNat + x.d.toNat) = x := by
  have ha := x.a.toNat_lt
  have hb := x.b.toNat_lt
  have hc := x.c.toNat_lt
  have hd := x.d.toNat_lt
  have hbyte {n : Nat} {b : UInt8} (h : n % 256 = b.toNat) : UInt8.ofNat n = b := by
    rw [← UInt8.toNat_inj, UInt8.toNat_ofNat', ← h]
  simp only [ofNat]
  rw [hbyte (b := x.a) (by omega), hbyte (b := x.b) (by omega), hbyte (b := x.c) (by omega),
    hbyte (b := x.d) (by omega)]

theorem ofDomain?_chars (x : Ipv4) : ofDomain? x.chars = some x := by
  have hnumbers : (labels x.chars).mapM number? =
      some [x.a.toNat, x.b.toNat, x.c.toNat, x.d.toNat] := by
    rw [labels_chars]
    simp [number?_natChars]
  rw [ofDomain?, hnumbers]
  simp only [Option.bind_eq_bind, Option.bind_some,
    combine?_bytes x.a.toNat_lt x.b.toNat_lt x.c.toNat_lt x.d.toNat_lt, ofNat_bytes]

/-- The text of an address is made of digits and dots. -/
theorem of_mem_chars (h : c ∈ x.chars) : (0x30 ≤ c.toNat ∧ c.toNat ≤ 0x39) ∨ c = '.' := by
  simp only [chars_eq, List.mem_append, List.mem_cons] at h
  rcases h with h | rfl | h | rfl | h | rfl | h
  all_goals first
    | exact Or.inl (Json.isDigit_of_mem_natChars h)
    | exact Or.inr rfl

end AccessDecision.Url.Ipv4
