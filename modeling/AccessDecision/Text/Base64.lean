import AccessDecision.Text.Base64url

set_option autoImplicit false

/-! # Base64 with padding

The symbols for 62 and 63 are `+` and `/`, and `=` fills the last group of four. -/

namespace AccessDecision.Text.Base64

/-- The symbol that stands for what a symbol of the URL alphabet stands for. -/
def symbol (c : Char) : Char := if c = '-' then '+' else if c = '_' then '/' else c

def encode (bytes : Bytes) : String :=
  let symbols := (Base64url.encodeChars bytes).map symbol
  String.ofList (symbols ++ List.replicate ((4 - symbols.length % 4) % 4) '=')

end AccessDecision.Text.Base64
