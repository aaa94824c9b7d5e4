import AccessDecision.Proofs.Outcome
import AccessDecision.Proofs.Url.Ipv4
import AccessDecision.Proofs.Url.Ipv6
import AccessDecision.Proofs.Url.Percent
import AccessDecision.Url.Host

set_option autoImplicit false

/-! # Hosts in normal form

A host that was read (`Host.Normal`) is read from its own text, with one exception: a domain that is
too long to be taken apart again is refused (`Host.read_chars`). -/

namespace AccessDecision.Url

open Text Percent

variable {cs ascii : List Char} {host : Host} {c : Char}

/-! ## Punycode -/

namespace Punycode

theorem isAscii_digitChar (d : Nat) : isAscii (digitChar d) = true := by
  have hdigits : ∀ d < 36, isAscii (digitChar d) = true := by decide
  by_cases hd : d < 36
  · exact hdigits d hd
  · have hnone : "abcdefghijklmnopqrstuvwxyz0123456789".toList[d]? = none :=
      List.getElem?_eq_none (by simpa using hd)
    rw [digitChar, List.getD_eq_getElem?_getD, hnone]
    decide

theorem isAscii_of_mem_digits {bias place n : Nat} (h : c ∈ digits bias place n) :
    isAscii c = true := by
  induction place, n using digits.induct bias with
  | case1 place n t hlast =>
    rw [digits, if_pos hlast, List.mem_singleton] at h
    exact h ▸ isAscii_digitChar n
  | case2 place n t hmore ih =>
    rw [digits, if_neg hmore] at h
    rcases List.mem_cons.1 h with rfl | h
    · exact isAscii_digitChar _
    · exact ih h

variable {label rising : List Char} {basic next : Nat} {w : Writer} {d : Char}

theorem all_isAscii_pass (h : w.written.all isAscii = true) :
    (w.pass basic c d).written.all isAscii = true := by
  unfold Writer.pass
  split
  · exact h
  · split
    · rw [List.all_append, h, List.all_eq_true.2 fun _ hmem => isAscii_of_mem_digits hmem]
      rfl
    · exact h

theorem all_isAscii_foldl_pass (h : w.written.all isAscii = true) :
    (label.foldl (Writer.pass basic c) w).written.all isAscii = true := by
  induction label generalizing w with
  | nil => exact h
  | cons d label ih => exact ih (all_isAscii_pass h)

theorem all_isAscii_run (h : w.written.all isAscii = true) :
    (w.run label basic next rising).all isAscii = true := by
  induction rising generalizing w next with
  | nil => exact h
  | cons c rising ih => exact ih (all_isAscii_foldl_pass h)

theorem all_isAscii_encode (label : List Char) : (encode label).all isAscii = true := by
  have hbasic : (label.filter isAscii).all isAscii = true :=
    List.all_eq_true.2 fun c hc => (List.mem_filter.1 hc).2
  unfold encode
  dsimp only
  rw [List.all_append, List.all_append, hbasic, all_isAscii_run rfl]
  split
  · rfl
  · rfl

end Punycode

/-! ## Domains -/

namespace Domain

theorem all_isAscii_asciiLabel? {label : List Char} (h : asciiLabel? label = some ascii) :
    ascii.all Punycode.isAscii = true := by
  unfold asciiLabel? at h
  split at h
  · rename_i hascii
    exact Option.some.inj h ▸ hascii
  · split at h
    · exact absurd h (by simp)
    · rw [← Option.some.inj h, List.all_append, Punycode.all_isAscii_encode]
      decide

theorem all_isAscii_of_mapM {labels forms : List (List Char)}
    (h : labels.mapM asciiLabel? = some forms) :
    ∀ form ∈ forms, form.all Punycode.isAscii = true := by
  induction labels generalizing forms with
  | nil =>
    obtain rfl := Option.some.inj h
    simp
  | cons label labels ih =>
    rw [List.mapM_cons] at h
    obtain ⟨form, hform, h⟩ := Option.bind_eq_some_iff.1 h
    obtain ⟨rest, hrest, h⟩ := Option.bind_eq_some_iff.1 h
    obtain rfl := Option.some.inj h
    exact List.forall_mem_cons.2 ⟨all_isAscii_asciiLabel? hform, ih hrest⟩

theorem all_isAscii_intercalate {forms : List (List Char)}
    (h : ∀ form ∈ forms, form.all Punycode.isAscii = true) :
    (['.'].intercalate forms).all Punycode.isAscii = true := by
  induction forms with
  | nil => rfl
  | cons form rest ih =>
    obtain ⟨hform, hrest⟩ := List.forall_mem_cons.1 h
    cases rest with
    | nil => simpa [List.intercalate] using hform
    | cons next rest =>
      have htail := ih hrest
      simp only [List.intercalate, List.intersperse_cons_cons, List.flatten_cons, List.all_append]
        at htail ⊢
      rw [hform, htail]
      rfl

/-- The ASCII form of a domain is ASCII, and nothing forbidden is in it. -/
theorem of_convert?_eq_some (h : convert? cs = some ascii) :
    ascii.all Punycode.isAscii = true ∧ ascii.any isForbidden = false := by
  have hchecked (form : List Char) (hascii : form.all Punycode.isAscii = true)
      (hform : (if form.any isForbidden then none else some form) = some ascii) :
      ascii.all Punycode.isAscii = true ∧ ascii.any isForbidden = false := by
    split at hform
    · exact absurd hform (by simp)
    · rename_i hfree
      rw [← Option.some.inj hform]
      exact ⟨hascii, by simpa using hfree⟩
  unfold convert? at h
  dsimp only at h
  split at h
  · rename_i hplain
    exact hchecked _ ((Bool.and_eq_true_iff.1 hplain).1) h
  · obtain ⟨plain, -, h⟩ := Option.bind_eq_some_iff.1 h
    obtain ⟨labels, hlabels, h⟩ := Option.bind_eq_some_iff.1 h
    exact hchecked _ (all_isAscii_intercalate (all_isAscii_of_mapM hlabels)) h

/-- What the ASCII form of a domain is: it is ASCII, nothing forbidden is in it, and it is read as
    itself if at all. -/
theorem of_toAscii?_eq_some (h : toAscii? cs = some ascii) :
    ascii.all Punycode.isAscii = true ∧ ascii.any isForbidden = false ∧
      (convert? ascii = some ascii ∨ convert? ascii = none) := by
  unfold toAscii? at h
  obtain ⟨form, hform, h⟩ := Option.bind_eq_some_iff.1 h
  obtain ⟨hascii, hallowed⟩ := of_convert?_eq_some hform
  split at h
  · rename_i again hagain
    split at h
    · rename_i hsame
      obtain rfl := Option.some.inj h
      exact ⟨hascii, hallowed, Or.inl (hsame ▸ hagain)⟩
    · exact absurd h (by simp)
  · rename_i hnone
    obtain rfl := Option.some.inj h
    exact ⟨hascii, hallowed, Or.inr hnone⟩

theorem toAscii?_of_convert? (h : convert? ascii = some ascii) : toAscii? ascii = some ascii := by
  rw [toAscii?, h]
  simp [h]

theorem toAscii?_of_none (h : convert? ascii = none) : toAscii? ascii = none := by
  rw [toAscii?, h]
  rfl

theorem unmarked?_natChars (n : Nat) : unmarked? (natChars n) = none := by
  rw [unmarked?, if_neg]
  intro hprefix
  have hx : 'x' ∈ natChars n :=
    (List.isPrefixOf_iff_prefix.1 hprefix).subset (by simp [mark])
  exact absurd (Json.isDigit_of_mem_natChars hx) (by decide)

theorem digit_props : ∀ n < 58, 48 ≤ n → (Char.ofNat n).toLower = Char.ofNat n ∧
    Punycode.isAscii (Char.ofNat n) = true ∧ isForbidden (Char.ofNat n) = false ∧
    Char.ofNat n ≠ 'x' := by
  decide

/-- What is made of digits and dots has small letters only, is ASCII and allowed, and holds no mark
    of punycode. -/
theorem of_mem_ipv4 {x : Ipv4} (h : c ∈ x.chars) :
    c.toLower = c ∧ Punycode.isAscii c = true ∧ isForbidden c = false ∧ c ≠ 'x' := by
  rcases Ipv4.of_mem_chars h with ⟨hlow, hhigh⟩ | rfl
  · have hprops := digit_props c.toNat (by omega) hlow
    rwa [Char.ofNat_toNat] at hprops
  · decide

/-- The text of an IPv4 address is a domain that is read as itself. -/
theorem convert?_chars (x : Ipv4) : convert? x.chars = some x.chars := by
  have hlower : x.chars.map Char.toLower = x.chars :=
    (List.map_congr_left fun c hc => (of_mem_ipv4 hc).1).trans (List.map_id _)
  have hascii : x.chars.all Punycode.isAscii = true :=
    List.all_eq_true.2 fun c hc => (of_mem_ipv4 hc).2.1
  have hplain : isPlain x.chars = true := by
    rw [isPlain, hascii, Ipv4.pieces_chars]
    simp [unmarked?_natChars]
  have hallowed : x.chars.any isForbidden = false := by
    rw [List.any_eq_false]
    exact fun c hc => by simp [(of_mem_ipv4 hc).2.2.1]
  unfold convert?
  dsimp only
  rw [hlower, if_pos hplain]
  exact if_neg (by simp [hallowed])

end Domain

/-! ## Hosts -/

namespace Host

/-- Hosts as they are read. -/
inductive Normal : Host → Prop
  | domain {ascii : List Char} (hnonempty : ascii ≠ [])
    (hascii : ascii.all Punycode.isAscii = true) (hallowed : ascii.any Domain.isForbidden = false)
    (hagain : Domain.convert? ascii = some ascii ∨ Domain.convert? ascii = none)
    (hdue : Ipv4.isDue ascii = false) : Normal (.domain ascii)
  | ipv4 (address : Ipv4) : Normal (.ipv4 address)
  | ipv6 (address : Ipv6) : Normal (.ipv6 address)

theorem normal_of_read (h : Host.read cs = .ok host) : host.Normal := by
  unfold Host.read at h
  split at h
  · unfold bracketed at h
    split at h
    · exact Except.ok.inj h ▸ .ipv6 _
    · exact absurd h (by simp)
  · split at h
    · exact absurd h (by simp)
    · split at h
      · exact absurd h (by simp)
      · exact absurd h (by simp)
      · rename_i ascii hnonempty hascii
        split at h
        · split at h
          · exact Except.ok.inj h ▸ .ipv4 _
          · exact absurd h (by simp)
        · rename_i hdue
          obtain ⟨hascii, hallowed, hagain⟩ := Domain.of_toAscii?_eq_some hascii
          exact Except.ok.inj h ▸ .domain hnonempty hascii hallowed hagain (by simpa using hdue)

/-- How a text without brackets and percent signs is read as a host. -/
theorem read_of_not_mem (hbracket : '[' ∉ cs) (hpercent : '%' ∉ cs) :
    Host.read cs = match Domain.toAscii? cs with
      | none => .error .invalidDomain
      | some [] => .error .emptyHost
      | some ascii =>
        if Ipv4.isDue ascii then
          match Ipv4.ofDomain? ascii with
          | some address => .ok (.ipv4 address)
          | none => .error .invalidIpv4
        else .ok (.domain ascii) := by
  unfold Host.read
  split
  · exact absurd (List.mem_cons_self ..) hbracket
  · rw [decode_encodeChars hpercent]
    dsimp only
    generalize hds : (String.ofList cs).toList = ds
    obtain rfl : cs = ds := String.toList_ofList.symm.trans hds
    rfl

theorem not_mem_of_allowed (h : ascii.any Domain.isForbidden = false)
    (hc : Domain.isForbidden c = true) : c ∉ ascii := by
  intro hmem
  exact absurd (List.any_eq_true.2 ⟨c, hmem, hc⟩) (by simp [h])

/-- A domain that cannot be converted is not read from its text. -/
theorem read_of_convert?_none (hallowed : ascii.any Domain.isForbidden = false)
    (hnone : Domain.convert? ascii = none) : Host.read ascii = .error .invalidDomain := by
  rw [read_of_not_mem (not_mem_of_allowed hallowed (by decide : Domain.isForbidden '[' = true))
    (not_mem_of_allowed hallowed (by decide : Domain.isForbidden '%' = true)),
    Domain.toAscii?_of_none hnone]

/-- A host that was read is read from its text, unless it is a domain that is too long for that. -/
theorem read_chars (h : host.Normal) :
    Host.read host.chars = .ok host ∨ ∃ ascii, host = .domain ascii ∧
      Domain.convert? ascii = none ∧ Host.read host.chars = .error .invalidDomain := by
  cases h with
  | @domain ascii hnonempty _ hallowed hagain hdue =>
    rcases hagain with hsame | hnone
    · left
      rw [chars, read_of_not_mem
        (not_mem_of_allowed hallowed (by decide : Domain.isForbidden '[' = true))
        (not_mem_of_allowed hallowed (by decide : Domain.isForbidden '%' = true)),
        Domain.toAscii?_of_convert? hsame]
      cases ascii with
      | nil => exact absurd rfl hnonempty
      | cons c cs => exact if_neg (by simp [hdue])
    · right
      exact ⟨ascii, rfl, hnone, read_of_convert?_none hallowed hnone⟩
  | ipv4 address =>
    left
    have hallowed := (Domain.of_convert?_eq_some (Domain.convert?_chars address)).2
    rw [chars, read_of_not_mem (not_mem_of_allowed hallowed (by decide))
      (not_mem_of_allowed hallowed (by decide)),
      Domain.toAscii?_of_convert? (Domain.convert?_chars address)]
    cases hchars : address.chars with
    | nil =>
      rw [Ipv4.chars_eq] at hchars
      exact absurd hchars (by simp)
    | cons c cs =>
      dsimp only
      rw [← hchars, Ipv4.isDue_chars, Ipv4.ofDomain?_chars]
      rfl
  | ipv6 address =>
    left
    rw [chars, List.cons_append, Host.read, bracketed, List.getLast?_concat, List.dropLast_concat,
      Ipv6.read?_chars]
    rfl

/-! ## What stands in a host -/

theorem isForbidden_of_mem (h : host.Normal) (haddress : ∀ address, host ≠ .ipv6 address)
    (hc : c ∈ host.chars) : Domain.isForbidden c = false := by
  cases h with
  | domain _ _ hallowed _ _ =>
    rw [← Bool.not_eq_true]
    exact fun hforbidden => not_mem_of_allowed hallowed hforbidden hc
  | ipv4 address => exact (Domain.of_mem_ipv4 hc).2.2.1
  | ipv6 address => exact absurd rfl (haddress address)

/-- What ends a host, or the part of a URL that it stands in. -/
def ends : List Char := ['/', '\\', '?', '#', '@']

theorem forbidden_ends : ends.all Domain.isForbidden = true := by decide

theorem digitChar_props : ∀ v < 16, 0x20 < (Nat.digitChar v).toNat ∧ Nat.digitChar v ∉ ends ∧
    Nat.digitChar v ∉ ['[', ']'] := by
  decide

theorem of_mem_ipv6 {x : Ipv6} (h : c ∈ x.chars) : 0x20 < c.toNat ∧ c ∉ ends ∧ c ∉ ['[', ']'] := by
  rcases Ipv6.of_mem_chars h with rfl | ⟨v, hv, rfl⟩
  · decide
  · exact digitChar_props v hv

/-- A host shows, and nothing in it ends it. -/
theorem of_mem_chars (h : host.Normal) (hc : c ∈ host.chars) : 0x20 < c.toNat ∧ c ∉ ends := by
  by_cases haddress : ∀ address, host ≠ .ipv6 address
  · have hforbidden := isForbidden_of_mem h haddress hc
    refine ⟨?_, fun hmem => ?_⟩
    · rw [Domain.isForbidden, Bool.or_eq_false_iff, Bool.or_eq_false_iff] at hforbidden
      simpa using hforbidden.1.1
    · exact absurd (List.all_eq_true.1 forbidden_ends c hmem) (by simp [hforbidden])
  · obtain ⟨address, rfl⟩ := not_forall_not.1 haddress
    rw [chars, List.cons_append, List.mem_cons, List.mem_append, List.mem_singleton] at hc
    rcases hc with rfl | hc | rfl
    · decide
    · exact ⟨(of_mem_ipv6 hc).1, (of_mem_ipv6 hc).2.1⟩
    · decide

theorem chars_ne_nil (h : host.Normal) : host.chars ≠ [] := by
  cases h with
  | domain hnonempty _ _ _ _ => exact hnonempty
  | ipv4 address =>
    rw [chars, Ipv4.chars_eq]
    simp
  | ipv6 address =>
    rw [chars]
    simp

end Host

end AccessDecision.Url
