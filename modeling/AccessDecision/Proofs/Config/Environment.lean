import AccessDecision.Proofs.Config.Lookup
import AccessDecision.Proofs.Text.Utf8

set_option autoImplicit false

/-! # What an environment configures

The values of an environment are bytes. A variable that holds a text is used, unless the text is
blank, and a timeout that cannot be used is an error. But a variable whose bytes are no text is
ignored like one that is not set (`Config.ofLookup_environment`), so that the default holds although
something was set (`Config.ofLookup_of_no_text`). -/

namespace AccessDecision.Config

open Outcome Text

variable {values : String → Option Bytes} {name text : String} {c : Config}

/-! ## What becomes of a variable -/

/-- A variable that is set to a text that is not blank. -/
structure Sets (values : String → Option Bytes) (name text : String) : Prop where
  bytes : values name = some (Utf8.encode text)
  not_blank : isBlank text = false

/-- A variable that is passed over. -/
inductive Ignored (values : String → Option Bytes) (name : String) : Prop
  | unset (h : values name = none)
  | blank (text : String) (h : values name = some (Utf8.encode text)) (hblank : isBlank text = true)
  /-- The bytes are no UTF-8. -/
  | noText (bytes : Bytes) (h : values name = some bytes)
    (hbytes : ∀ text, bytes ≠ Utf8.encode text)

theorem environment_of_text (h : values name = some (Utf8.encode text)) :
    environment values name = some text := by
  rw [environment, h]
  dsimp only
  rw [Utf8.decode_encode]

theorem environment_of_no_text {bytes : Bytes} (h : values name = some bytes)
    (hbytes : ∀ text, bytes ≠ Utf8.encode text) : environment values name = none := by
  rw [environment, h]
  dsimp only
  cases hdecode : Utf8.decode bytes with
  | error fault => rfl
  | ok text => exact absurd (Utf8.decode_eq_ok_iff.1 hdecode) (hbytes text)

theorem Sets.setting_eq (h : Sets values name text) :
    setting (environment values) name = some (trim text) := by
  rw [setting, environment_of_text h.bytes, Option.filter_some, h.not_blank]
  rfl

theorem Ignored.setting_eq (h : Ignored values name) :
    setting (environment values) name = none := by
  cases h with
  | unset h =>
    rw [setting, environment, h]
    rfl
  | blank text h hblank =>
    rw [setting, environment_of_text h, Option.filter_some, hblank]
    rfl
  | noText bytes h hbytes =>
    rw [setting, environment_of_no_text h hbytes]
    rfl

theorem sets_or_ignored (values : String → Option Bytes) (name : String) :
    (∃ text, Sets values name text) ∨ Ignored values name := by
  cases hvalue : values name with
  | none => exact Or.inr (.unset hvalue)
  | some bytes =>
    cases hdecode : Utf8.decode bytes with
    | error fault =>
      refine Or.inr (.noText bytes hvalue ?_)
      rintro text rfl
      rw [Utf8.decode_encode] at hdecode
      exact absurd hdecode (by simp)
    | ok text =>
      obtain rfl := Utf8.decode_eq_ok_iff.1 hdecode
      cases hblank : isBlank text with
      | true => exact Or.inr (.blank text hvalue hblank)
      | false => exact Or.inl ⟨text, hvalue, hblank⟩

/-! ## Configurations -/

/-- What a variable makes of something that has a default: its text is put to use, or it is passed
    over and the default holds. -/
inductive Effect {α : Type} (values : String → Option Bytes) (name : String)
    (use : String → α → Prop) (unset : α) : α → Prop
  | used {text : String} {a : α} (h : Sets values name text) (huse : use (trim text) a) :
    Effect values name use unset a
  | ignored (h : Ignored values name) : Effect values name use unset unset

/-- A configuration of an environment. -/
structure IsOfEnvironment (values : String → Option Bytes) (c : Config) : Prop where
  endpoint : Effect values endpointName (fun text endpoint => endpoint = text) default.endpoint
    c.endpoint
  tenant : Effect values tenantName (fun text tenant => tenant = some text) none c.tenant
  timeout : Effect values timeoutName
    (fun text timeout => ∃ seconds, IsTimeout text seconds ∧ timeout = some seconds)
    default.timeoutSeconds c.timeoutSeconds
  headers : c.headers = []

/-- What is made of a variable depends on what is set. -/
theorem effect_iff {α : Type} {use : String → α → Prop} {unset a : α} :
    Effect values name use unset a ↔
      match setting (environment values) name with
      | none => a = unset
      | some value => use value a := by
  constructor
  · rintro (⟨h, huse⟩ | h)
    · rw [h.setting_eq]
      exact huse
    · rw [h.setting_eq]
  · intro h
    rcases sets_or_ignored values name with ⟨text, hsets⟩ | hignored
    · rw [hsets.setting_eq] at h
      exact .used hsets h
    · rw [hignored.setting_eq] at h
      obtain rfl := h
      exact .ignored hignored

theorem isOfEnvironment_iff : c.IsOfEnvironment values ↔ c.IsOf (environment values) := by
  have hendpoint : Effect values endpointName (fun text endpoint => endpoint = text)
      default.endpoint c.endpoint ↔
        c.endpoint = (setting (environment values) endpointName).getD default.endpoint := by
    rw [effect_iff]
    cases setting (environment values) endpointName <;> rfl
  have htenant : Effect values tenantName (fun text tenant => tenant = some text) none c.tenant ↔
      c.tenant = setting (environment values) tenantName := by
    rw [effect_iff]
    cases setting (environment values) tenantName <;> rfl
  have htimeout : Effect values timeoutName
      (fun text timeout => ∃ seconds, IsTimeout text seconds ∧ timeout = some seconds)
      default.timeoutSeconds c.timeoutSeconds ↔
        TimeoutOf (setting (environment values) timeoutName) c.timeoutSeconds :=
    effect_iff.trans timeoutOf_iff.symm
  constructor
  · rintro ⟨h, h', h'', hheaders⟩
    exact ⟨hendpoint.1 h, htenant.1 h', htimeout.1 h'', hheaders⟩
  · rintro ⟨h, h', h'', hheaders⟩
    exact ⟨hendpoint.2 h, htenant.2 h', htimeout.2 h'', hheaders⟩

/-- **What an environment configures.** A configuration uses each of the three variables, trimmed,
    that holds a text that is not blank, and only those that are not set, are blank or hold no text
    are passed over. Where there is no configuration, the error says that the configuration is at
    fault, because a timeout is set that cannot be used. -/
theorem ofLookup_environment (values : String → Option Bytes) :
    (∀ c, ofLookup (environment values) = .ok c ↔ c.IsOfEnvironment values) ∧
    ∀ error, ofLookup (environment values) = .error error →
      (∃ reason, error = .configuration reason) ∧
        ∃ text, Sets values timeoutName text ∧ ∀ seconds, ¬ IsTimeout (trim text) seconds := by
  constructor
  · intro c
    rw [isOfEnvironment_iff, ofLookup_eq_ok_iff]
  · intro error herror
    obtain ⟨hreason, value, hset, hnone⟩ := of_ofLookup_eq_error herror
    refine ⟨hreason, ?_⟩
    rcases sets_or_ignored values timeoutName with ⟨text, hsets⟩ | hignored
    · rw [hsets.setting_eq] at hset
      obtain rfl := Option.some.inj hset
      exact ⟨text, hsets, hnone⟩
    · rw [hignored.setting_eq] at hset
      exact absurd hset (by simp)

/-- A tenant and a timeout that end in a byte that no text holds: the configuration is the default,
    without a tenant. -/
theorem ofLookup_of_no_text :
    let values : String → Option Bytes := fun name =>
      if name = tenantName then some [0x61, 0x63, 0x6D, 0x65, 0xFF]
      else if name = timeoutName then some [0x35, 0xFF]
      else none
    ofLookup (environment values) = .ok default ∧
      ∀ name ∈ [tenantName, timeoutName], ∃ bytes, values name = some bytes ∧
        isBlank (Utf8.decodeLossy bytes) = false := by
  intro values
  refine ⟨by rfl, ?_⟩
  simp only [List.forall_mem_cons]
  exact ⟨⟨_, rfl, by decide⟩, ⟨_, rfl, by decide⟩, by simp⟩

end AccessDecision.Config
