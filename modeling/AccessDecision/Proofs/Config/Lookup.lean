import AccessDecision.Client
import AccessDecision.Proofs.Outcome
import AccessDecision.Proofs.Text.Blank
import AccessDecision.Proofs.Text.Decimal

set_option autoImplicit false

/-! # What a lookup configures

White space around the value of a name makes no difference, and a blank value is none: so a
configuration depends on the trimmed values of three names alone (`Config.given`). Only the timeout
can be refused, and what is not refused makes a client, provided that its endpoint is a URL of the
web (`Config.ofLookup_trimmed`). -/

namespace AccessDecision.Config

open Outcome Text

variable {lookup other : String → Option String} {name value : String} {c : Config}

/-! ## Values -/

/-- The names of what can be set. -/
def settingNames : List String := [endpointName, tenantName, timeoutName]

/-- What is given for a name, without the white space around it. Nothing is as good as blanks. -/
def given (lookup : String → Option String) (name : String) : String :=
  trim ((lookup name).getD "")

/-- What is set is what is given, unless that is nothing. -/
theorem setting_eq : setting lookup name =
    if given lookup name = "" then none else some (given lookup name) := by
  unfold setting given
  cases lookup name with
  | none => rfl
  | some text =>
    rw [Option.getD_some, Option.filter_some]
    by_cases hblank : isBlank text = true
    · rw [if_pos ((trim_eq_empty_iff text).2 hblank), hblank]
      rfl
    · rw [if_neg (mt (trim_eq_empty_iff text).1 hblank), Bool.eq_false_iff.2 hblank]
      rfl

theorem setting_eq_some_iff :
    setting lookup name = some value ↔ given lookup name ≠ "" ∧ given lookup name = value := by
  rw [setting_eq]
  split
  · rename_i hnothing
    simp [hnothing]
  · rename_i hsomething
    rw [Option.some.injEq, and_iff_right hsomething]

theorem setting_eq_none_iff : setting lookup name = none ↔ given lookup name = "" := by
  rw [setting_eq]
  split
  · rename_i hnothing
    simp [hnothing]
  · rename_i hsomething
    simp [hsomething]

/-- What is set is not blank and has no white space around it. -/
theorem of_setting_eq_some (h : setting lookup name = some value) :
    isBlank value = false ∧ Trimmed value := by
  obtain ⟨hsomething, rfl⟩ := setting_eq_some_iff.1 h
  refine ⟨?_, trimmed_trim _⟩
  rw [given, isBlank_trim, ← Bool.not_eq_true]
  exact mt (trim_eq_empty_iff _).2 hsomething

/-! ## The timeout -/

/-- A number of seconds that may be given for the timeout. -/
structure IsTimeout (value : String) (seconds : UInt64) : Prop where
  numeral : IsNumeral value seconds.toNat
  pos : 1 ≤ seconds.toNat

theorem timeout_eq_ok_iff {seconds : UInt64} :
    timeout value = .ok seconds ↔ IsTimeout value seconds := by
  unfold timeout
  constructor
  · intro h
    split at h
    · exact absurd h (by simp)
    · rename_i n hread
      obtain ⟨hnumeral, hbound⟩ := readBounded_eq_ok_iff.1 hread
      split at h
      · exact absurd h (by simp)
      · rename_i hzero
        obtain rfl := Except.ok.inj h
        have hn : (UInt64.ofNat n).toNat = n := UInt64.toNat_ofNat_of_lt' hbound
        exact ⟨by rwa [hn], by omega⟩
  · intro h
    have hread : readBounded 0x10000000000000000 value = .ok seconds.toNat :=
      readBounded_eq_ok_iff.2 ⟨h.numeral, seconds.toNat_lt⟩
    have hpos := h.pos
    rw [hread]
    dsimp only
    rw [if_neg (by omega), UInt64.ofNat_toNat]

theorem exists_isTimeout_iff :
    (∃ seconds, IsTimeout value seconds) ↔ ∃ n, IsNumeral value n ∧ 1 ≤ n ∧ n < UInt64.size := by
  constructor
  · rintro ⟨seconds, hnumeral, hpos⟩
    exact ⟨seconds.toNat, hnumeral, hpos, seconds.toNat_lt_size⟩
  · rintro ⟨n, hnumeral, hpos, hbound⟩
    have hn : (UInt64.ofNat n).toNat = n := UInt64.toNat_ofNat_of_lt' hbound
    exact ⟨UInt64.ofNat n, by rwa [hn], by rwa [hn]⟩

/-- A timeout that is refused is a fault of the configuration. -/
theorem exists_reason_of_timeout {error : EvaluationError} (h : timeout value = .error error) :
    ∃ reason, error = .configuration reason := by
  unfold timeout at h
  split at h
  · exact ⟨_, (Except.error.inj h).symm⟩
  · split at h
    · exact ⟨_, (Except.error.inj h).symm⟩
    · exact absurd h (by simp)

/-- The timeout of a value, if one is set. -/
def timeoutFor : Option String → Except EvaluationError (Option UInt64)
  | none => .ok default.timeoutSeconds
  | some value => (timeout value).map some

/-- What the timeout is, if there is one, for a value that may be set. -/
inductive TimeoutOf : Option String → Option UInt64 → Prop
  | unset : TimeoutOf none default.timeoutSeconds
  | set {value : String} {seconds : UInt64} (h : IsTimeout value seconds) :
    TimeoutOf (some value) (some seconds)

theorem timeoutOf_iff {value? : Option String} {seconds : Option UInt64} :
    TimeoutOf value? seconds ↔
      match value? with
      | none => seconds = default.timeoutSeconds
      | some value => ∃ n, IsTimeout value n ∧ seconds = some n := by
  constructor
  · rintro (_ | hset)
    · rfl
    · exact ⟨_, hset, rfl⟩
  · intro h
    cases value? with
    | none =>
      obtain rfl := h
      exact .unset
    | some value =>
      obtain ⟨n, hset, rfl⟩ := h
      exact .set hset

theorem timeoutFor_eq_ok_iff {value? : Option String} {seconds : Option UInt64} :
    timeoutFor value? = .ok seconds ↔ TimeoutOf value? seconds := by
  rw [timeoutOf_iff]
  cases value? with
  | none => rw [timeoutFor, Except.ok.injEq, eq_comm]
  | some value => simp only [timeoutFor, map_eq_ok_iff, timeout_eq_ok_iff, eq_comm (b := seconds)]

theorem exists_timeoutOf_iff :
    (∃ seconds, TimeoutOf (setting lookup timeoutName) seconds) ↔ given lookup timeoutName = "" ∨
      ∃ n, IsNumeral (given lookup timeoutName) n ∧ 1 ≤ n ∧ n < UInt64.size := by
  rw [← exists_isTimeout_iff, setting_eq]
  split
  · rename_i hnothing
    exact ⟨fun _ => Or.inl hnothing, fun _ => ⟨_, .unset⟩⟩
  · rename_i hsomething
    rw [or_iff_right hsomething]
    constructor
    · rintro ⟨_, _ | hset⟩
      exact ⟨_, hset⟩
    · rintro ⟨seconds, hset⟩
      exact ⟨some seconds, .set hset⟩

theorem TimeoutOf.eq_default {seconds : Option UInt64}
    (h : TimeoutOf (setting lookup timeoutName) seconds)
    (hnothing : given lookup timeoutName = "") : seconds = default.timeoutSeconds := by
  rw [setting_eq_none_iff.2 hnothing] at h
  cases h
  rfl

/-- The timeout is the value of the numeral that is given. -/
theorem TimeoutOf.toNat_eq {seconds : Option UInt64} {n : Nat}
    (h : TimeoutOf (setting lookup timeoutName) seconds)
    (hn : IsNumeral (given lookup timeoutName) n) : seconds.map UInt64.toNat = some n := by
  rw [setting_eq_some_iff.2 ⟨hn.ne_empty, rfl⟩] at h
  cases h with
  | set hset => exact congrArg some (hset.numeral.unique hn)

theorem TimeoutOf.ne_zero {value? : Option String} {seconds : Option UInt64}
    (h : TimeoutOf value? seconds) : seconds ≠ some 0 := by
  cases h with
  | unset => decide
  | set hset =>
    intro hzero
    obtain rfl := Option.some.inj hzero
    exact absurd hset.pos (by decide)

/-! ## Configurations -/

theorem ofLookup_eq (lookup : String → Option String) :
    ofLookup lookup = (timeoutFor (setting lookup timeoutName)).map fun timeoutSeconds =>
      { default with
        endpoint := (setting lookup endpointName).getD default.endpoint
        tenant := setting lookup tenantName
        timeoutSeconds } := by
  unfold ofLookup
  cases setting lookup timeoutName with
  | none => rfl
  | some value =>
    rw [timeoutFor]
    dsimp only
    cases timeout value <;> rfl

/-- A configuration of what is set. -/
structure IsOf (lookup : String → Option String) (c : Config) : Prop where
  endpoint : c.endpoint = (setting lookup endpointName).getD default.endpoint
  tenant : c.tenant = setting lookup tenantName
  timeout : TimeoutOf (setting lookup timeoutName) c.timeoutSeconds
  headers : c.headers = []

theorem ofLookup_eq_ok_iff : ofLookup lookup = .ok c ↔ c.IsOf lookup := by
  simp only [ofLookup_eq, map_eq_ok_iff, timeoutFor_eq_ok_iff]
  constructor
  · rintro ⟨seconds, hseconds, rfl⟩
    exact ⟨rfl, rfl, hseconds, rfl⟩
  · rintro ⟨hendpoint, htenant, htimeout, hheaders⟩
    refine ⟨_, htimeout, ?_⟩
    rw [← hendpoint, ← htenant]
    cases c
    exact congrArg _ hheaders.symm

/-- Only the timeout can be refused. -/
theorem of_ofLookup_eq_error {error : EvaluationError} (h : ofLookup lookup = .error error) :
    (∃ reason, error = .configuration reason) ∧
      ∃ value, setting lookup timeoutName = some value ∧ ∀ seconds, ¬ IsTimeout value seconds := by
  rw [ofLookup_eq, map_eq_error_iff] at h
  cases hset : setting lookup timeoutName with
  | none =>
    rw [hset] at h
    exact absurd h (by simp [timeoutFor])
  | some value =>
    rw [hset, timeoutFor, map_eq_error_iff] at h
    refine ⟨exists_reason_of_timeout h, value, rfl, ?_⟩
    intro seconds hseconds
    rw [timeout_eq_ok_iff.2 hseconds] at h
    exact absurd h (by simp)

/-- A configuration without headers and with a timeout that is not zero makes a client if its
    endpoint does. -/
theorem make_of_isOf (h : c.IsOf lookup) (source : Source) :
    Client.make c source = c.endpointUrl.map fun url => ⟨c, url, [], source⟩ := by
  unfold Client.make
  rw [h.headers]
  cases c.endpointUrl with
  | error error => rfl
  | ok url => exact if_neg h.timeout.ne_zero

/-! ## The law of lookups -/

/-- **What a lookup configures.** Lookups that give the same three values, white space around them
    aside, are configured alike or refused alike. A configuration is found exactly if no timeout is
    given, or a numeral that is not zero and fits into 64 bits, which is the timeout then. Neither
    the endpoint nor the tenant is blank or has white space around it, and nothing but the endpoint
    can keep a client from being made. -/
theorem ofLookup_trimmed (lookup : String → Option String) :
    (∀ other, (∀ name ∈ settingNames, given other name = given lookup name) →
      ofLookup other = ofLookup lookup) ∧
    ((∃ c, ofLookup lookup = .ok c) ↔ given lookup timeoutName = "" ∨
      ∃ n, IsNumeral (given lookup timeoutName) n ∧ 1 ≤ n ∧ n < UInt64.size) ∧
    ∀ c, ofLookup lookup = .ok c →
      (given lookup timeoutName = "" → c.timeoutSeconds = default.timeoutSeconds) ∧
      (∀ n, IsNumeral (given lookup timeoutName) n → c.timeoutSeconds.map UInt64.toNat = some n) ∧
      (isBlank c.endpoint = false ∧ Trimmed c.endpoint) ∧
      (∀ tenant, c.tenant = some tenant → isBlank tenant = false ∧ Trimmed tenant) ∧
      ∀ source, Client.make c source = c.endpointUrl.map fun url => ⟨c, url, [], source⟩ := by
  refine ⟨?_, ?_, ?_⟩
  · intro other hsame
    have hsetting : ∀ name ∈ settingNames, setting other name = setting lookup name := by
      intro name hname
      rw [setting_eq, setting_eq, hsame name hname]
    simp only [settingNames, List.forall_mem_cons] at hsetting
    obtain ⟨hendpoint, htenant, htimeout, -⟩ := hsetting
    rw [ofLookup_eq, ofLookup_eq, hendpoint, htenant, htimeout]
  · rw [← exists_timeoutOf_iff]
    constructor
    · rintro ⟨c, hc⟩
      exact ⟨_, (ofLookup_eq_ok_iff.1 hc).timeout⟩
    · rintro ⟨seconds, hseconds⟩
      rw [ofLookup_eq, timeoutFor_eq_ok_iff.2 hseconds]
      exact ⟨_, rfl⟩
  · intro c hok
    have hc := ofLookup_eq_ok_iff.1 hok
    refine ⟨hc.timeout.eq_default, fun n hn => hc.timeout.toNat_eq hn, ?_, ?_, make_of_isOf hc⟩
    · rw [hc.endpoint]
      cases hset : setting lookup endpointName with
      | none => exact ⟨by decide, by decide⟩
      | some endpoint => exact of_setting_eq_some hset
    · intro tenant htenant
      exact of_setting_eq_some (hc.tenant.symm.trans htenant)

end AccessDecision.Config
