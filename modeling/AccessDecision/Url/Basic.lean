import AccessDecision.Url.Host

set_option autoImplicit false

/-! # URLs

A URL in its parts, each in the form in which it is written: `Url.text` joins them. A scheme that
the web knows always has a host and a path that starts with a slash. -/

namespace AccessDecision

/-- Where a URL leads to under its host. -/
inductive Url.Path where
  /-- The segments behind the slashes. -/
  | segments (items : List (List Char))
  /-- The whole text, of a scheme without hosts. -/
  | opaqueText (text : List Char)
  deriving DecidableEq

structure Url where
  scheme : List Char
  username : List Char
  password : List Char
  host : Option Url.Host
  /-- The port, unless it is the default of the scheme. -/
  port : Option UInt16
  path : Url.Path
  query : Option (List Char)
  fragment : Option (List Char)
  deriving DecidableEq

namespace Url

/-! ## Schemes -/

/-- What a scheme means for the rest of a URL. -/
inductive Kind where
  /-- A scheme of the web, with its default port. -/
  | web (defaultPort : UInt16)
  | file
  | foreign
  deriving DecidableEq, Repr

def kind (scheme : List Char) : Kind :=
  if scheme = "http".toList || scheme = "ws".toList then .web 80
  else if scheme = "https".toList || scheme = "wss".toList then .web 443
  else if scheme = "ftp".toList then .web 21
  else if scheme = "file".toList then .file
  else .foreign

/-- The port that the URL leads to. -/
def effectivePort (u : Url) : Option UInt16 :=
  match u.port, kind u.scheme with
  | some port, _ => some port
  | none, .web port => some port
  | none, _ => none

/-! ## Writing -/

def Path.chars : Path → List Char
  | .segments items => items.flatMap ('/' :: ·)
  | .opaqueText text => text

/-- The name and the password before the host. -/
def userInfoChars (u : Url) : List Char :=
  if u.username.isEmpty && u.password.isEmpty then []
  else u.username ++ (if u.password.isEmpty then [] else ':' :: u.password) ++ ['@']

/-- The host and the port, unless that is the default. -/
def hostChars (u : Url) : List Char :=
  (match u.host with
    | some host => host.chars
    | none => []) ++
  match u.port with
  | some port => ':' :: Text.natChars port.toNat
  | none => []

/-- What stands between the scheme and the path. A path that starts with two slashes must not be
taken for a host. -/
def authorityChars (u : Url) : List Char :=
  match u.host, u.path with
  | some _, _ => '/' :: '/' :: u.userInfoChars ++ u.hostChars
  | none, .segments ([] :: _ :: _) => ['/', '.']
  | none, _ => []

/-- A part that a mark introduces if it is there. -/
def marked (mark : Char) : Option (List Char) → List Char
  | none => []
  | some part => mark :: part

def chars (u : Url) : List Char :=
  u.scheme ++ ':' :: u.authorityChars ++ u.path.chars ++ marked '?' u.query ++
    marked '#' u.fragment

def text (u : Url) : String := String.ofList u.chars

/-- The URL without name and password. -/
def withoutUserInfo (u : Url) : Url := { u with username := [], password := [] }

end Url

end AccessDecision
