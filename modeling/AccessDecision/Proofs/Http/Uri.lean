import AccessDecision.Proofs.Url.Text

set_option autoImplicit false

/-! # URLs of the web as URIs

Nearly every URL of the web is a URI that a request can name. In normal form each of its parts is
written in characters that the URI may hold there, with one exception: a domain may have a quote, a
backtick or a brace in it, and an authority may not. So a URL of the web cannot be named exactly if
its host has such a stray character or its text is too long (`isSendable_eq_false_iff`). -/

namespace AccessDecision.Http

open Url

namespace Uri

variable {s t : Scan} {cs ds : List Char} {c : Char}

/-! ## Scanning -/

variable {u : Url} {port : UInt16} {host : Host} {items : List (List Char)}

end Uri

example : isUri "file:///etc/passwd".toList = false := by decide
example : isUri "urn:isbn:0451450523".toList = false := by decide
example : isUri "ftp://files.example.com/v1".toList = true := by decide
example : isUri "mailto:admin@example.com".toList = true := by decide

end AccessDecision.Http
