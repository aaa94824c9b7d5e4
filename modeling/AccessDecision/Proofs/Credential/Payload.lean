import AccessDecision.Proofs.Credential.Codec
import AccessDecision.Proofs.Json.Object

set_option autoImplicit false

/-! # Claims in any text of their members

Claims are told by the values of their members alone. So it does not matter in which order these
stand in a text, how they are spelled and what else stands there under other names
(`Claims.read_carried`): a payload that another issuer writes is read as the one that is written
here. The name of the issuer is the only member that may be missing, and it is missing from what is
written here only if there is none: the empty name is written. -/

namespace AccessDecision

open Json Text.Utf8

namespace Claims

theorem builtByValues : BuiltByValues ofAssignment := by
  intro a a' h
  simp only [ofAssignment, Assignment.string, Assignment.int64, Assignment.optionalString,
    Assignment.required, h]

/-- All other names are names of no field. -/
theorem field?_eq_none_iff {name : String} :
    layout.field? name = none ↔ name ∉ ["client_id", "iat", "exp", "iss", "jti"] := by
  rw [Layout.field?, List.find?_eq_none]
  simp [layout, Field.goesBy, eq_comm (a := name)]

/-- **Claims come back from any text of their members.** They are read off the text that is written
    for them, which has a member for the issuer exactly if there is one, and off every other text
    of the same members, with further members among them or without. -/
theorem read_carried (c : Claims) :
    read (encode c.text) = .ok c ∧
      (∃ members, Json.read (encode c.text) = .ok (.object members) ∧
        ("iss" ∉ members.map Prod.fst ↔ c.issuer = none) ∧
        lookup "iss" members = c.issuer.map .string) ∧
      layout.Carries c.members (encode c.text) ∧
      ∀ input, layout.Carries c.members input → read input = .ok c := by
  refine ⟨c.read_text, ?_, layout.carries_text fun m hm => (c.flat_members m hm).1, ?_⟩
  · obtain ⟨members, hread, hlookup⟩ := c.read_object
    have hissuer : lookup "iss" members = c.issuer.map .string :=
      (hlookup "iss").trans c.lookup_issuer
    refine ⟨members, hread, ?_, hissuer⟩
    rw [← lookup_eq_none_iff, hissuer, Option.map_eq_none_iff]
  · intro input hinput
    exact Layout.read_of_carries builtByValues (fun m hm => (c.flat_members m hm).2)
      c.ofJson_members hinput

/-- The first and the last instant of all, an empty name of an issuer, an escape in the id, and a
    further member whose value no string is made of, all in another order. -/
theorem read_carried_among_others :
    let c : Claims := ⟨"a", Int64.minValue, Int64.maxValue, some "", "\n"⟩
    let input := encode ("\x7b \"jti\" :\"\\u000a\",\"x\":[\"\\ud800\"]," ++
      "\"exp\":9223372036854775807,\n\"iss\":\"\",\"iat\":-9223372036854775808," ++
      "\"client_id\":\"a\"\x7d ")
    layout.Carries c.members input ∧ read input = .ok c := by
  intro c input
  have hplain (s : String) := spells_escapedChars s.toList
  have hblank : IsBlank [0x20] := by simp [IsBlank, isSpace]
  have hbreak : IsBlank [0x0A] := by simp [IsBlank, isSpace]
  have hline : IsHex '\n'.toNat (encode "000a") := ⟨rfl, rfl⟩
  have hchars : SpellsChars ['\n'] (backslash :: letterU :: encode "000a" ++ []) :=
    .cons (.unit hline) .nil
  have hid : Spells (.string "\n") (quoted (encode "\\u000a")) := .string hchars
  have hfirst : Spells (.whole (.ofInt64 Int64.minValue)) (encode "-9223372036854775808") :=
    .whole (.ofInt64 Int64.minValue)
  have hlast : Spells (.whole (.ofInt64 Int64.maxValue)) (encode "9223372036854775807") :=
    .whole (.ofInt64 Int64.maxValue)
  have hlone : IsHex 0xD800 (encode "d800") := ⟨rfl, rfl⟩
  have hfurther : IsText .value (encode "[\"\\ud800\"]") :=
    .brackets (.item (.first isBlank_nil) (.string (.hex hlone .nil)) (.close isBlank_nil))
  obtain ⟨text, htext, hobject⟩ : ∃ text, text = input ∧ ObjectText
      [("jti", encode "\"\\u000a\""), ("x", encode "[\"\\ud800\"]"),
        ("exp", encode "9223372036854775807"), ("iss", encode "\"\""),
        ("iat", encode "-9223372036854775808"), ("client_id", encode "\"a\"")] text :=
    ⟨_, by decide +kernel, .mk isBlank_nil
      (.member (.first hblank) (hplain "jti") hblank isBlank_nil
      (.member (.later isBlank_nil isBlank_nil) (hplain "x") isBlank_nil isBlank_nil
      (.member (.later isBlank_nil isBlank_nil) (hplain "exp") isBlank_nil isBlank_nil
      (.member (.later isBlank_nil hbreak) (hplain "iss") isBlank_nil isBlank_nil
      (.member (.later isBlank_nil isBlank_nil) (hplain "iat") isBlank_nil isBlank_nil
      (.member (.later isBlank_nil isBlank_nil) (hplain "client_id") isBlank_nil isBlank_nil
      (.close isBlank_nil))))))) hblank⟩
  have hcarries : layout.Carries c.members input := by
    refine ⟨_, [("client_id", encode "\"a\""), ("iat", encode "-9223372036854775808"),
      ("exp", encode "9223372036854775807"), ("iss", encode "\"\""),
      ("jti", encode "\"\\u000a\"")], [("x", encode "[\"\\ud800\"]")], htext ▸ hobject,
      ?_, ?_, ?_⟩
    · decide +kernel
    · exact .cons ⟨rfl, .string (hplain "a")⟩ (.cons ⟨rfl, hfirst⟩ (.cons ⟨rfl, hlast⟩
        (.cons ⟨rfl, .string (hplain "")⟩ (.cons ⟨rfl, hid⟩ .nil))))
    · simpa using ⟨field?_eq_none_iff.2 (by decide), hfurther⟩
  exact ⟨hcarries, (read_carried c).2.2.2 input hcarries⟩

end Claims

end AccessDecision
