import AccessDecision.Http.Header
import AccessDecision.Text.Base64
import AccessDecision.Url.Basic

set_option autoImplicit false

/-! # Authorization

A request may carry a token, and the name and password of its URL. -/

namespace AccessDecision.Http

/-- The value that carries a token. -/
def bearer (token : String) : String := "Bearer " ++ token

/-- The value that carries a name and a password. -/
def basic (name password : String) : String :=
  "Basic " ++ Text.Base64.encode (Text.Utf8.encode (name ++ ":" ++ password))

/-- The text that a part of a URL stands for, unless it is no text. -/
def decoded? (part : List Char) : Option String :=
  (Text.Utf8.decode (Url.Percent.decode (Text.Utf8.encodeChars part))).toOption

/-- The name and the password of a URL that has either. A password that is no text is left out, and
with a name that is no text both stay in the URL. -/
def userInfo? (url : Url) : Option (String × String) :=
  if url.userInfoChars.isEmpty then none
  else do
    let name ← decoded? url.username
    let password := (decoded? url.password).filter fun p => !p.isEmpty
    if name.isEmpty && password.isNone then none else some (name, password.getD "")

end AccessDecision.Http
