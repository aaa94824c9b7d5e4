import AccessDecision.Url.Basic

set_option autoImplicit false

/-! # Reading URLs

`Url.read` reads a URL that stands by itself, `Url.join` one that may be relative to another. Both
put each part into its normal form: the scheme and the host in lower case, no default port, a path
without steps to itself or to its parent, and percent signs for what a part does not hold as it is.
-/

namespace AccessDecision.Url

/-! ## Cutting -/

/-- Controls and spaces at both ends do not count, nor do tabs and line ends anywhere. -/
def clean (s : String) : List Char :=
  let isMargin (c : Char) : Bool := c ≤ ' '
  let trimmed := ((s.toList.dropWhile isMargin).reverse.dropWhile isMargin).reverse
  trimmed.filter fun c => c ≠ '\t' && c ≠ '\n' && c ≠ '\r'

def isSchemeChar (c : Char) : Bool := c.isAlphanum || c = '+' || c = '-' || c = '.'

/-- The scheme in lower case, and what follows its colon. -/
def splitScheme? (cs : List Char) : Option (List Char × List Char) :=
  match cs.takeWhile isSchemeChar, cs.dropWhile isSchemeChar with
  | first :: more, ':' :: rest =>
    if first.isAlpha then some ((first :: more).map Char.toLower, rest) else none
  | _, _ => none

/-- What follows the scheme. -/
structure Parts where
  main : List Char
  query : Option (List Char)
  fragment : Option (List Char)

def Parts.of (cs : List Char) : Parts :=
  let (rest, fragment) := Text.breakAt (· = '#') cs
  let (main, query) := Text.breakAt (· = '?') rest
  ⟨main, query, fragment⟩

/-- Schemes that the web knows take a backslash for a slash. -/
def Kind.isSlash : Kind → Char → Bool
  | .foreign, c => c = '/'
  | _, c => c = '/' || c = '\\'

def Kind.encodeQuery : Kind → List Char → List Char
  | .foreign => Percent.encode Percent.query
  | _ => Percent.encode Percent.webQuery

/-- What stands before and after the last `@`. -/
def splitAtLastAt (cs : List Char) : Option (List Char) × List Char :=
  match Text.breakAt (· = '@') cs.reverse with
  | (after, some before) => (some before.reverse, after.reverse)
  | (after, none) => (none, after.reverse)

/-- The host, up to the first colon outside brackets, and what follows that colon. -/
def splitPort (insideBrackets : Bool) : List Char → List Char × Option (List Char)
  | [] => ([], none)
  | c :: rest =>
    if c = ':' && !insideBrackets then ([], some rest)
    else
      let (host, port) := splitPort (c = '[' || (insideBrackets && c ≠ ']')) rest
      (c :: host, port)

/-! ## Parts -/

/-- A port below `2 ^ 16`; no digits are no port. -/
def readPort (defaultPort : Option UInt16) (digits : List Char) : Except Error (Option UInt16) :=
  match Text.readDigits 0x10000 0 digits with
  | .error _ => .error .invalidPort
  | .ok n =>
    let port := UInt16.ofNat n
    .ok (if digits.isEmpty || some port = defaultPort then none else some port)

/-- Whether a segment is a step to itself. -/
def isSelf (segment : List Char) : Bool :=
  let segment := segment.map Char.toLower
  segment = ".".toList || segment = "%2e".toList

/-- Whether a segment is a step to the parent. -/
def isParent (segment : List Char) : Bool :=
  let segment := segment.map Char.toLower
  ["..", ".%2e", "%2e.", "%2e%2e"].any fun s => segment = s.toList

/-- A letter and a colon or bar, which stands for a drive and has no parent. -/
def isDrive : List Char → Bool
  | [letter, mark] => letter.isAlpha && (mark = ':' || mark = '|')
  | _ => false

/-- A step to the parent, from segments in reverse. -/
def toParent : List (List Char) → List (List Char)
  | [] => []
  | last :: rest => if isDrive last then last :: rest else rest

/-- The segments with all steps taken, after those in `taken`, which stand in reverse. A step at the
end leaves an empty segment. -/
def takeSteps (taken : List (List Char)) : List (List Char) → List (List Char)
  | [] => taken.reverse
  | segment :: rest =>
    let step : Option (List (List Char)) :=
      if isParent segment then some (toParent taken)
      else if isSelf segment then some taken
      else none
    match step with
    | some taken => takeSteps (if rest.isEmpty then [] :: taken else taken) rest
    | none => takeSteps (Percent.encode Percent.path segment :: taken) rest

/-- The path after the segments of a base, if there are any. -/
def readPath (kind : Kind) (base : List (List Char)) (cs : List Char) : Path :=
  .segments (takeSteps base.reverse (Text.pieces kind.isSlash cs))

/-- The path behind a host: it starts with a slash, or is empty. -/
def readRootedPath (kind : Kind) : List Char → Path
  | [] => .segments (if kind = .foreign then [] else [[]])
  | c :: cs => readPath kind [] (if kind.isSlash c then cs else c :: cs)

/-! ## URLs -/

/-- A URL of which the scheme and the path are known. -/
def ofPath (scheme : List Char) (path : Path) (parts : Parts) : Url where
  scheme := scheme
  username := []
  password := []
  host := none
  port := none
  path := path
  query := parts.query.map (kind scheme).encodeQuery
  fragment := parts.fragment.map (Percent.encode Percent.fragment)

/-- The rest of a URL from the host on. Only a scheme that the web does not know may go without a
host, and then without name, password and port too. -/
def readAuthority (scheme : List Char) (cs : List Char) (parts : Parts) : Except Error Url := do
  let kind := kind scheme
  let isInside (c : Char) : Bool := !kind.isSlash c
  let (userInfo, address) := splitAtLastAt (cs.takeWhile isInside)
  let (username, password) := Text.breakAt (· = ':') (userInfo.getD [])
  let (hostText, portText) := splitPort false address
  let mayBeEmpty := kind = .foreign && userInfo.isNone && portText.isNone
  if hostText.isEmpty && !mayBeEmpty then .error .emptyHost
  else
    let host ← if kind = .foreign then Host.readForeign hostText else Host.read hostText
    let defaultPort := match kind with
      | .web port => some port
      | _ => none
    let port ← readPort defaultPort (portText.getD [])
    .ok { ofPath scheme (readRootedPath kind (cs.dropWhile isInside)) parts with
      username := Percent.encode Percent.userInfo username
      password := Percent.encode Percent.userInfo (password.getD [])
      host := some host
      port := port }

/-- The colon of a drive may be written as a bar. -/
def normalDrive (segment : List Char) : List Char :=
  match segment with
  | letter :: _ => if isDrive segment then [letter, ':'] else segment
  | [] => segment

/-- The rest of a file URL: two slashes may introduce a host, which is left out if it is the machine
itself. -/
def readFile (scheme : List Char) (parts : Parts) : Except Error Url := do
  let isSlash := Kind.file.isSlash
  let path (cs : List Char) : Path :=
    match Text.pieces isSlash (cs.dropWhile isSlash) with
    | first :: rest => .segments (takeSteps [] (normalDrive first :: rest))
    | [] => .segments [[]]
  let onThisMachine (cs : List Char) : Url :=
    { ofPath scheme (path cs) parts with host := some (.foreign []) }
  match parts.main with
  | a :: b :: rest =>
    if isSlash a && isSlash b then
      let hostText := rest.takeWhile fun c => !isSlash c
      if hostText.isEmpty || isDrive hostText then .ok (onThisMachine rest)
      else
        let host ← Host.read hostText
        let rest := rest.dropWhile fun c => !isSlash c
        if host = .domain "localhost".toList then .ok (onThisMachine rest)
        else .ok { ofPath scheme (path rest) parts with host := some host }
    else .ok (onThisMachine (a :: b :: rest))
  | main => .ok (onThisMachine main)

/-- A URL from what follows its scheme. -/
def readAbsolute (scheme : List Char) (parts : Parts) : Except Error Url :=
  match kind scheme with
  | .web port => readAuthority scheme (parts.main.dropWhile (Kind.web port).isSlash) parts
  | .file => readFile scheme parts
  | .foreign =>
    match parts.main with
    | '/' :: '/' :: rest => readAuthority scheme rest parts
    | '/' :: rest => .ok (ofPath scheme (readPath .foreign [] rest) parts)
    | main => .ok (ofPath scheme (.opaqueText (Percent.encode Percent.controls main)) parts)

/-- The URL that a text writes. -/
def read (s : String) : Except Error Url :=
  match splitScheme? (clean s) with
  | none => .error .relativeWithoutBase
  | some (scheme, rest) => readAbsolute scheme (Parts.of rest)

/-! ## Relative to another URL -/

/-- The URL with another path, query and fragment. -/
def withPath (base : Url) (path : Path) (parts : Parts) : Url :=
  { ofPath base.scheme path parts with
    username := base.username
    password := base.password
    host := base.host
    port := base.port }

/-- What a text without a scheme means next to a URL. -/
def joinRelative (base : Url) (items : List (List Char)) (parts : Parts) : Except Error Url :=
  let kind := kind base.scheme
  let slashes := parts.main.takeWhile kind.isSlash
  match parts.main with
  | [] =>
    let joined := base.withPath base.path parts
    .ok (if parts.query.isNone then { joined with query := base.query } else joined)
  | c :: rest =>
    if slashes.length ≥ 2 then
      readAuthority base.scheme (parts.main.dropWhile kind.isSlash) parts
    else if kind.isSlash c then .ok (base.withPath (readPath kind [] rest) parts)
    else .ok (base.withPath (readPath kind items.dropLast parts.main) parts)

/-- The URL that a text means next to another one. -/
def join (base : Url) (reference : String) : Except Error Url :=
  let cs := clean reference
  match splitScheme? cs, base.path with
  | some (scheme, rest), .segments items =>
    let parts := Parts.of rest
    let isSlash := (kind scheme).isSlash
    let isWeb := match kind scheme with
      | .web _ => true
      | _ => false
    if isWeb && scheme = base.scheme && (parts.main.takeWhile isSlash).length < 2 then
      joinRelative base items parts
    else readAbsolute scheme parts
  | some (scheme, rest), .opaqueText _ => readAbsolute scheme (Parts.of rest)
  | none, .segments items => joinRelative base items (Parts.of cs)
  | none, .opaqueText _ => .error .relativeWithoutBase

end AccessDecision.Url
