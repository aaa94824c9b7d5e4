import AccessDecision.Proofs.Outcome
import AccessDecision.Proofs.Text.Utf8
import AccessDecision.Text.Base64url

set_option autoImplicit false

/-! # A text is read as base64url exactly if it was written so

`decode_eq_ok_iff` says that the reader inverts the writer and accepts nothing else: no symbol
outside the alphabet, no padding, no lone last symbol, no unused bit that is set. Both directions
go by groups of four symbols, over the two laws that pin the alphabet (`value?_symbolByte`,
`symbolByte_of_value?`). -/

namespace AccessDecision.Text.Base64url

open Outcome

/-! ## The alphabet -/

/-- The byte of the symbol of a six-bit value. -/
def symbolByte (value : Nat) : UInt8 := UInt8.ofNat (symbol value).toNat

theorem value?_symbolByte : ∀ v < 64, value? (symbolByte v) = some v := by
  decide +kernel

/-- Symbols are ASCII, and none of them is a dot or the padding. -/
theorem symbol_ascii : ∀ v < 64, (symbol v).toNat < 0x80 ∧ symbol v ≠ '.' ∧
    symbolByte v ≠ padding := by
  decide +kernel

theorem value?_ofNat :
    ∀ n < 256, (value? (UInt8.ofNat n)).all fun v => v < 64 ∧ UInt8.ofNat n = symbolByte v := by
  decide +kernel

theorem symbolByte_of_value? {b : UInt8} {v : Nat} (h : value? b = some v) :
    v < 64 ∧ b = symbolByte v := by
  have hall := value?_ofNat b.toNat b.toNat_lt
  rw [UInt8.ofNat_toNat, h] at hall
  simpa using hall

theorem valueAt_eq_ok_iff {offset v : Nat} {b : UInt8} :
    valueAt offset b = .ok v ↔ v < 64 ∧ b = symbolByte v := by
  constructor
  · intro h
    unfold valueAt at h
    split at h
    · rename_i w hw
      simp only [Except.ok.injEq] at h
      subst h
      exact symbolByte_of_value? hw
    · exact absurd h (by simp)
  · rintro ⟨hv, rfl⟩
    rw [valueAt, value?_symbolByte v hv]

theorem utf8EncodeChar_symbol {v : Nat} (hv : v < 64) :
    String.utf8EncodeChar (symbol v) = [symbolByte v] :=
  Utf8.utf8EncodeChar_ascii (symbol_ascii v hv).1

/-! ## What is written, as bytes -/

/-- The bytes of the text that writes some bytes. -/
def written (bytes : Bytes) : Bytes := Utf8.encodeChars (encodeChars bytes)

theorem written_nil : written [] = [] := rfl

theorem written_one (a : UInt8) :
    written [a] = [symbolByte (a.toNat / 4), symbolByte (a.toNat % 4 * 16)] := by
  have ha := a.toNat_lt
  simp only [written, encodeChars, Utf8.encodeChars_cons, Utf8.encodeChars_nil]
  rw [utf8EncodeChar_symbol (by omega), utf8EncodeChar_symbol (by omega)]
  rfl

theorem written_two (a b : UInt8) :
    written [a, b] = [symbolByte (a.toNat / 4), symbolByte (a.toNat % 4 * 16 + b.toNat / 16),
      symbolByte (b.toNat % 16 * 4)] := by
  have ha := a.toNat_lt
  have hb := b.toNat_lt
  simp only [written, encodeChars, Utf8.encodeChars_cons, Utf8.encodeChars_nil]
  rw [utf8EncodeChar_symbol (by omega), utf8EncodeChar_symbol (by omega),
    utf8EncodeChar_symbol (by omega)]
  rfl

theorem written_three (a b c : UInt8) (rest : Bytes) :
    written (a :: b :: c :: rest) =
      symbolByte (a.toNat / 4) :: symbolByte (a.toNat % 4 * 16 + b.toNat / 16) ::
        symbolByte (b.toNat % 16 * 4 + c.toNat / 64) :: symbolByte (c.toNat % 64) ::
        written rest := by
  have ha := a.toNat_lt
  have hb := b.toNat_lt
  have hc := c.toNat_lt
  simp only [written, encodeChars, Utf8.encodeChars_cons]
  rw [utf8EncodeChar_symbol (by omega), utf8EncodeChar_symbol (by omega),
    utf8EncodeChar_symbol (by omega), utf8EncodeChar_symbol (by omega)]
  rfl

theorem ofNat_eq_of_eq_toNat {n : Nat} {b : UInt8} (h : n = b.toNat) : UInt8.ofNat n = b := by
  rw [h, UInt8.ofNat_toNat]

theorem toNat_ofNat_of_lt {n : Nat} (h : n < 256) : (UInt8.ofNat n).toNat = n := by
  rw [UInt8.toNat_ofNat']
  omega

/-- The three bytes of four values are written as these values. -/
theorem written_sextets {a b c d : Nat} {rest : Bytes} (ha : a < 64) (hb : b < 64) (hc : c < 64)
    (hd : d < 64) :
    written (UInt8.ofNat (a * 4 + b / 16) :: UInt8.ofNat (b % 16 * 16 + c / 4) ::
      UInt8.ofNat (c % 4 * 64 + d) :: rest) =
      symbolByte a :: symbolByte b :: symbolByte c :: symbolByte d :: written rest := by
  rw [written_three, toNat_ofNat_of_lt (by omega), toNat_ofNat_of_lt (by omega),
    toNat_ofNat_of_lt (by omega), show (a * 4 + b / 16) / 4 = a by omega,
    show (a * 4 + b / 16) % 4 * 16 + (b % 16 * 16 + c / 4) / 16 = b by omega,
    show (b % 16 * 16 + c / 4) % 16 * 4 + (c % 4 * 64 + d) / 64 = c by omega,
    show (c % 4 * 64 + d) % 64 = d by omega]

/-- Every byte that is written is the symbol of some value. -/
theorem exists_of_mem_encodeChars {bytes : Bytes} {s : Char} (h : s ∈ encodeChars bytes) :
    ∃ v < 64, s = symbol v := by
  fun_induction encodeChars bytes with
  | case1 => exact absurd h (by simp)
  | case2 a =>
    have ha := a.toNat_lt
    simp only [List.mem_cons, List.not_mem_nil, or_false] at h
    rcases h with rfl | rfl <;> exact ⟨_, by omega, rfl⟩
  | case3 a b =>
    have ha := a.toNat_lt
    have hb := b.toNat_lt
    simp only [List.mem_cons, List.not_mem_nil, or_false] at h
    rcases h with rfl | rfl | rfl <;> exact ⟨_, by omega, rfl⟩
  | case4 a b c rest ih =>
    have ha := a.toNat_lt
    have hb := b.toNat_lt
    have hc := c.toNat_lt
    simp only [List.mem_cons] at h
    rcases h with rfl | rfl | rfl | rfl | h
    · exact ⟨_, by omega, rfl⟩
    · exact ⟨_, by omega, rfl⟩
    · exact ⟨_, by omega, rfl⟩
    · exact ⟨_, by omega, rfl⟩
    · exact ih h

/-- No dot is written. -/
theorem dot_not_mem_encodeChars (bytes : Bytes) : '.' ∉ encodeChars bytes := by
  intro h
  obtain ⟨v, hv, hdot⟩ := exists_of_mem_encodeChars h
  exact (symbol_ascii v hv).2.1 hdot.symm

theorem length_encodeChars (bytes : Bytes) :
    (encodeChars bytes).length = (4 * bytes.length + 2) / 3 := by
  induction bytes using encodeChars.induct with
  | case1 => rfl
  | case2 a => simp [encodeChars]
  | case3 a b => simp [encodeChars]
  | case4 a b c rest ih =>
    simp only [encodeChars, List.length_cons, ih]
    omega

theorem length_written (bytes : Bytes) : (written bytes).length = (4 * bytes.length + 2) / 3 := by
  have hascii : ∀ s ∈ encodeChars bytes, s.toNat < 0x80 := by
    intro s hs
    obtain ⟨v, hv, rfl⟩ := exists_of_mem_encodeChars hs
    exact (symbol_ascii v hv).1
  rw [written, Utf8.encodeChars_of_ascii hascii, List.length_map, length_encodeChars]

/-! ## The last group -/

theorem values_map_symbolByte (offset : Nat) (vs : List Nat) (h : ∀ v ∈ vs, v < 64) :
    values offset (vs.map symbolByte) = .ok (vs, []) := by
  induction vs generalizing offset with
  | nil => rfl
  | cons v vs ih =>
    have hv : v < 64 := h v (List.mem_cons_self ..)
    have htail := ih (offset + 1) fun w hw => h w (List.mem_cons_of_mem _ hw)
    rw [List.map_cons, values, if_neg (symbol_ascii v hv).2.2, valueAt_eq_ok_iff.2 ⟨hv, rfl⟩,
      ok_bind, htail, ok_bind]

theorem of_values_eq_ok {offset : Nat} {group : Bytes} {vs : List Nat}
    (h : values offset group = .ok (vs, [])) :
    (∀ v ∈ vs, v < 64) ∧ group = vs.map symbolByte := by
  induction group generalizing offset vs with
  | nil =>
    simp only [values, Except.ok.injEq, Prod.mk.injEq] at h
    obtain ⟨rfl, -⟩ := h
    simp
  | cons b group ih =>
    rw [values] at h
    split at h
    · exact absurd h (by simp)
    · obtain ⟨v, hv, h⟩ := bind_eq_ok_iff.1 h
      obtain ⟨⟨ws, rest⟩, hws, h⟩ := bind_eq_ok_iff.1 h
      simp only [Except.ok.injEq, Prod.mk.injEq] at h
      obtain ⟨rfl, rfl⟩ := h
      obtain ⟨hlt, rfl⟩ := valueAt_eq_ok_iff.1 hv
      obtain ⟨hall, rfl⟩ := ih hws
      refine ⟨fun w hw => ?_, rfl⟩
      rcases List.mem_cons.1 hw with rfl | hw
      · exact hlt
      · exact hall w hw

theorem decodeLast_written {offset : Nat} {bytes : Bytes} (h : bytes.length ≤ 3) :
    decodeLast offset (written bytes) = .ok bytes := by
  match bytes, h with
  | [], _ => rfl
  | [a], _ =>
    have ha := a.toNat_lt
    have hvalues : values offset (written [a]) = .ok ([a.toNat / 4, a.toNat % 4 * 16], []) := by
      rw [written_one]
      exact values_map_symbolByte offset [_, _] (by simp; omega)
    have hunused : a.toNat % 4 * 16 % 16 = 0 := by omega
    have hbyte : UInt8.ofNat (a.toNat / 4 * 4 + a.toNat % 4 * 16 / 16) = a :=
      ofNat_eq_of_eq_toNat (by omega)
    simp only [decodeLast, hvalues, ok_bind, List.isEmpty_nil, Bool.not_true, Bool.false_eq_true,
      if_false, hunused, if_true, hbyte]
  | [a, b], _ =>
    have ha := a.toNat_lt
    have hb := b.toNat_lt
    have hvalues : values offset (written [a, b]) =
        .ok ([a.toNat / 4, a.toNat % 4 * 16 + b.toNat / 16, b.toNat % 16 * 4], []) := by
      rw [written_two]
      exact values_map_symbolByte offset [_, _, _] (by simp; omega)
    have hunused : b.toNat % 16 * 4 % 4 = 0 := by omega
    have hfirst : UInt8.ofNat (a.toNat / 4 * 4 + (a.toNat % 4 * 16 + b.toNat / 16) / 16) = a :=
      ofNat_eq_of_eq_toNat (by omega)
    have hsecond : UInt8.ofNat ((a.toNat % 4 * 16 + b.toNat / 16) % 16 * 16 +
        b.toNat % 16 * 4 / 4) = b :=
      ofNat_eq_of_eq_toNat (by omega)
    simp only [decodeLast, hvalues, ok_bind, List.isEmpty_nil, Bool.not_true, Bool.false_eq_true,
      if_false, hunused, if_true, hfirst, hsecond]
  | [a, b, c], _ =>
    have ha := a.toNat_lt
    have hb := b.toNat_lt
    have hc := c.toNat_lt
    have hvalues : values offset (written [a, b, c]) =
        .ok ([a.toNat / 4, a.toNat % 4 * 16 + b.toNat / 16, b.toNat % 16 * 4 + c.toNat / 64,
          c.toNat % 64], []) := by
      rw [written_three]
      exact values_map_symbolByte offset [_, _, _, _] (by simp; omega)
    simp only [decodeLast, hvalues, ok_bind, List.isEmpty_nil, Bool.not_true, Bool.false_eq_true,
      if_false]
    rw [ofNat_eq_of_eq_toNat (b := a) (by omega), ofNat_eq_of_eq_toNat (b := b) (by omega),
      ofNat_eq_of_eq_toNat (b := c) (by omega)]

theorem of_decodeLast_eq_ok {offset : Nat} {group bytes : Bytes} (hlength : group.length ≤ 4)
    (h : decodeLast offset group = .ok bytes) : group = written bytes := by
  unfold decodeLast at h
  obtain ⟨⟨vs, rest⟩, hvalues, h⟩ := bind_eq_ok_iff.1 h
  cases rest with
  | cons b rest =>
    -- what follows the symbols is padding, which is refused
    simp only [List.isEmpty_cons, Bool.not_false, if_true] at h
    split at h <;> exact absurd h (by simp)
  | nil =>
    obtain ⟨hvs, rfl⟩ := of_values_eq_ok hvalues
    simp only [List.isEmpty_nil, Bool.not_true, Bool.false_eq_true, if_false] at h
    match vs, hvs, hlength with
    | [], _, _ =>
      simp only [Except.ok.injEq] at h
      subst h
      rfl
    | [_], _, _ => exact absurd h (by simp)
    -- a short group is taken only if its unused bits are zero, so they can be written again
    | [a, b], hvs, _ =>
      have ha : a < 64 := hvs a (by simp)
      have hb : b < 64 := hvs b (by simp)
      simp only at h
      split at h
      · simp only [Except.ok.injEq] at h
        subst h
        rw [written_one, toNat_ofNat_of_lt (by omega), show (a * 4 + b / 16) / 4 = a by omega,
          show (a * 4 + b / 16) % 4 * 16 = b by omega]
        rfl
      · exact absurd h (by simp)
    | [a, b, c], hvs, _ =>
      have ha : a < 64 := hvs a (by simp)
      have hb : b < 64 := hvs b (by simp)
      have hc : c < 64 := hvs c (by simp)
      simp only at h
      split at h
      · simp only [Except.ok.injEq] at h
        subst h
        rw [written_two, toNat_ofNat_of_lt (by omega), toNat_ofNat_of_lt (by omega),
          show (a * 4 + b / 16) / 4 = a by omega,
          show (a * 4 + b / 16) % 4 * 16 + (b % 16 * 16 + c / 4) / 16 = b by omega,
          show (b % 16 * 16 + c / 4) % 16 * 4 = c by omega]
        rfl
      · exact absurd h (by simp)
    | [a, b, c, d], hvs, _ =>
      have ha : a < 64 := hvs a (by simp)
      have hb : b < 64 := hvs b (by simp)
      have hc : c < 64 := hvs c (by simp)
      have hd : d < 64 := hvs d (by simp)
      simp only [Except.ok.injEq] at h
      subst h
      rw [written_sextets ha hb hc hd]
      rfl

/-! ## A whole text -/

theorem decodeFrom_written (offset : Nat) (bytes : Bytes) :
    decodeFrom offset (written bytes) = .ok bytes := by
  match bytes with
  | [] => exact decodeLast_written (by simp)
  | [a] =>
    rw [written_one, decodeFrom, ← written_one]
    · exact decodeLast_written (by simp)
    · simp
  | [a, b] =>
    rw [written_two, decodeFrom, ← written_two]
    · exact decodeLast_written (by simp)
    · simp
  | [a, b, c] =>
    rw [written_three, written_nil, decodeFrom, ← written_nil, ← written_three]
    · exact decodeLast_written (by simp)
    · simp
  | a :: b :: c :: d :: rest =>
    have ha := a.toNat_lt
    have hb := b.toNat_lt
    have hc := c.toNat_lt
    have hrest := decodeFrom_written (offset + 4) (d :: rest)
    -- a group is read as a full one only because a further symbol follows
    obtain ⟨e, tail, htail⟩ : ∃ e tail, written (d :: rest) = e :: tail := by
      match rest with
      | [] => exact ⟨_, _, written_one d⟩
      | [x] => exact ⟨_, _, written_two d x⟩
      | x :: y :: rest => exact ⟨_, _, written_three d x y rest⟩
    rw [htail] at hrest
    rw [written_three, htail, decodeFrom, valueAt_eq_ok_iff.2 ⟨by omega, rfl⟩, ok_bind,
      valueAt_eq_ok_iff.2 ⟨by omega, rfl⟩, ok_bind, valueAt_eq_ok_iff.2 ⟨by omega, rfl⟩, ok_bind,
      valueAt_eq_ok_iff.2 ⟨by omega, rfl⟩, ok_bind, hrest, ok_bind,
      ofNat_eq_of_eq_toNat (b := a) (by omega), ofNat_eq_of_eq_toNat (b := b) (by omega),
      ofNat_eq_of_eq_toNat (b := c) (by omega)]
termination_by bytes.length

theorem of_decodeFrom_eq_ok {offset : Nat} {text bytes : Bytes}
    (h : decodeFrom offset text = .ok bytes) : text = written bytes := by
  fun_induction decodeFrom offset text generalizing bytes with
  | case1 offset a b c d e rest ih =>
    obtain ⟨v, hv, h⟩ := bind_eq_ok_iff.1 h
    obtain ⟨w, hw, h⟩ := bind_eq_ok_iff.1 h
    obtain ⟨x, hx, h⟩ := bind_eq_ok_iff.1 h
    obtain ⟨y, hy, h⟩ := bind_eq_ok_iff.1 h
    obtain ⟨decoded, hdecoded, h⟩ := bind_eq_ok_iff.1 h
    simp only [Except.ok.injEq] at h
    subst h
    obtain ⟨hv, ha⟩ := valueAt_eq_ok_iff.1 hv
    obtain ⟨hw, hb⟩ := valueAt_eq_ok_iff.1 hw
    obtain ⟨hx, hc⟩ := valueAt_eq_ok_iff.1 hx
    obtain ⟨hy, hd⟩ := valueAt_eq_ok_iff.1 hy
    rw [written_sextets hv hw hx hy, ← ih hdecoded, ha, hb, hc, hd]
  | case2 offset group hgroup =>
    -- the last group is what the first case does not take
    have hlength : group.length ≤ 4 := by
      match group, hgroup with
      | [], _ | [_], _ | [_, _], _ | [_, _, _], _ | [_, _, _, _], _ => simp
      | a :: b :: c :: d :: e :: rest, hgroup => exact absurd rfl (hgroup a b c d e rest)
    exact of_decodeLast_eq_ok hlength h

theorem isSome_value?_of_mem_written {bytes : Bytes} {b : UInt8} (h : b ∈ written bytes) :
    (value? b).isSome := by
  obtain ⟨s, hs, hb⟩ := List.mem_flatMap.1 h
  obtain ⟨v, hv, rfl⟩ := exists_of_mem_encodeChars hs
  rw [utf8EncodeChar_symbol hv, List.mem_singleton] at hb
  rw [hb, value?_symbolByte v hv]
  rfl

/-- Reading inverts writing, and nothing is read but what is written. -/
theorem decode_eq_ok_iff {text bytes : Bytes} : decode text = .ok bytes ↔ text = written bytes := by
  constructor
  · intro h
    unfold decode at h
    simp only at h
    split at h
    · exact absurd h (by simp)
    · exact of_decodeFrom_eq_ok h
  · rintro rfl
    -- the early check for a last symbol outside the alphabet
    have hlast : (written bytes).getLastD padding = padding ∨
        (value? ((written bytes).getLastD padding)).isSome := by
      cases hw : written bytes with
      | nil => exact Or.inl rfl
      | cons b rest =>
        have hmem : (b :: rest).getLastD padding ∈ written bytes := by
          rw [hw, List.getLastD_cons]
          exact List.getLastD_mem_cons
        exact Or.inr (isSome_value?_of_mem_written hmem)
    unfold decode
    simp only
    rw [if_neg, decodeFrom_written]
    generalize (written bytes).getLastD padding = last at hlast
    rcases hlast with rfl | hlast
    · simp
    · simp [Option.isSome_iff_ne_none.1 hlast]

/-- The same for a text given as its characters. -/
theorem decode_encodeChars_eq_ok_iff {cs : List Char} {bytes : Bytes} :
    decode (Utf8.encodeChars cs) = .ok bytes ↔ cs = encodeChars bytes := by
  rw [decode_eq_ok_iff, written]
  exact ⟨Utf8.encodeChars_injective, fun h => congrArg Utf8.encodeChars h⟩

/-! ## As strings -/

theorem toList_encode (bytes : Bytes) : (encode bytes).toList = encodeChars bytes :=
  String.toList_ofList

theorem dot_not_mem_encode (bytes : Bytes) : '.' ∉ (encode bytes).toList := by
  rw [toList_encode]
  exact dot_not_mem_encodeChars bytes

/-- A letter or a digit of ASCII, a hyphen or an underscore. -/
def IsSymbol (c : Char) : Prop :=
  'A' ≤ c ∧ c ≤ 'Z' ∨ 'a' ≤ c ∧ c ≤ 'z' ∨ '0' ≤ c ∧ c ≤ '9' ∨ c = '-' ∨ c = '_'

instance (c : Char) : Decidable (IsSymbol c) := by
  unfold IsSymbol
  infer_instance

theorem isSymbol_symbol : ∀ v < 64, IsSymbol (symbol v) := by
  decide +kernel

theorem isSymbol_of_mem_encode {bytes : Bytes} {c : Char} (h : c ∈ (encode bytes).toList) :
    IsSymbol c := by
  rw [toList_encode] at h
  obtain ⟨v, hv, rfl⟩ := exists_of_mem_encodeChars h
  exact isSymbol_symbol v hv

theorem encode_ne_empty {bytes : Bytes} (h : bytes ≠ []) : encode bytes ≠ "" := by
  intro hempty
  have hlength := length_encodeChars bytes
  rw [← toList_encode, hempty] at hlength
  have hpos := List.length_pos_iff.2 h
  simp only [String.toList_empty, List.length_nil] at hlength
  omega

theorem decode_encode (bytes : Bytes) : decode (Utf8.encode (encode bytes)) = .ok bytes := by
  rw [Utf8.encode, toList_encode, decode_encodeChars_eq_ok_iff]

theorem encode_injective {bytes other : Bytes} (h : encode bytes = encode other) :
    bytes = other := by
  have hbytes := decode_encode bytes
  rw [h, decode_encode] at hbytes
  exact (Except.ok.inj hbytes).symm

end AccessDecision.Text.Base64url
