import OciCompose.Url.Host

/-
  URLs of `http` and `https`: reading, resolving against a base, and adding to the query.
  A fragment belongs to a URL but is never sent.
-/

namespace OciCompose

inductive Scheme where
  | http
  | https
deriving DecidableEq

def Scheme.name : Scheme → String
  | http => "http"
  | https => "https"

def Scheme.defaultPort : Scheme → Nat
  | http => 80
  | https => 443

/-- A URL. `userInfo` is `user:password`, decoded; `portNumber` is none for that of the scheme. -/
structure Url where
  scheme : Scheme
  userInfo : Option Bytes := none
  host : Host
  portNumber : Option Nat := none
  path : List (List Char)
  query : Option (List Char) := none
  fragment : Option (List Char) := none
deriving DecidableEq

namespace Url

/-- Drops control characters and spaces at both ends, and tabs and line breaks everywhere. -/
def clean (s : List Char) : List Char :=
  let blank (c : Char) : Bool := c.toNat ≤ 0x20
  (((s.dropWhile blank).reverse.dropWhile blank).reverse).filter fun c =>
    c != '\t' && c != '\n' && c != '\r'

/-- The scheme of a text, in lower case, and what is behind its colon. -/
def splitScheme (s : List Char) : Option (String × List Char) :=
  match Text.cut ':' s with
  | some (c :: cs, rest) =>
    if c.isAlpha && cs.all fun x => x.isAlphanum || ['+', '-', '.'].contains x then
      some (String.ofList ((c :: cs).map Char.toLower), rest)
    else none
  | _ => none

def isSlash (c : Char) : Bool := c == '/' || c == '\\'

/-- What an authority ends before. -/
def endsAuthority (c : Char) : Bool := isSlash c || c == '?' || c == '#'

/-! ## Paths -/

def isDot (s : List Char) : Bool := [".", "%2e"].contains (String.ofList (s.map Char.toLower))

def isDotDot (s : List Char) : Bool :=
  ["..", ".%2e", "%2e.", "%2e%2e"].contains (String.ofList (s.map Char.toLower))

/-- Puts segments behind a path: a dot stays, two dots go up, and both close the path if they end
    it. -/
def resolve : List (List Char) → List (List Char) → List (List Char)
  | done, [] => done
  | done, s :: ss =>
    let closed (d : List (List Char)) := if ss = [] then d ++ [[]] else resolve d ss
    if isDotDot s then closed done.dropLast
    else if isDot s then closed done
    else resolve (done ++ [Percent.encode Percent.isPathChar s]) ss

def splitPath (s : List Char) : List (List Char) :=
  (s.map fun c => if c = '\\' then '/' else c).splitOn '/'

/-- The path of a text behind a host. -/
def absolutePath : List Char → List (List Char)
  | [] => [[]]
  | c :: cs => if isSlash c then resolve [] (splitPath cs) else resolve [] (splitPath (c :: cs))

/-- What follows a host. -/
structure Tail where
  path : List Char
  query : Option (List Char)
  fragment : Option (List Char)

/-- The path, the query and the fragment of a text. -/
def splitTail (s : List Char) : Tail :=
  let (whole, fragment) :=
    match Text.cut '#' s with
    | some (whole, f) => (whole, some (Percent.encode Percent.isFragmentChar f))
    | none => (s, none)
  match Text.cut '?' whole with
  | some (path, query) => ⟨path, some (Percent.encode Percent.isQueryChar query), fragment⟩
  | none => ⟨whole, none, fragment⟩

/-! ## Authorities -/

/-- The host and what stands behind its colon. Colons in brackets belong to the host. -/
def splitPort : Bool → List Char → List Char × Option (List Char)
  | _, [] => ([], none)
  | inside, c :: cs =>
    if c = ':' ∧ !inside then ([], some cs)
    else
      let inside := if c = '[' then true else if c = ']' then false else inside
      let (host, digits) := splitPort inside cs
      (c :: host, digits)

/-- The number of some digits, none for that of the scheme. -/
def portNumber? (scheme : Scheme) (digits : List Char) : Except UrlFault (Option Nat) :=
  if digits = [] then .ok none
  else if digits.all fun c => '0' ≤ c && c ≤ '9' then
    match Host.number? 10 digits with
    | some n =>
      if 65535 < n then .error .badPort
      else .ok (if n = scheme.defaultPort then none else some n)
    | none => .error .badPort
  else .error .badPort

/-- User and password of a text such as `user:password`, none if both are empty. -/
def userInfoOf (s : List Char) : Option Bytes :=
  let (user, password) := (Text.cut ':' s).getD (s, [])
  if user = [] ∧ password = [] then none
  else some (Percent.decode user ++ Utf8.encode ":" ++ Percent.decode password)

/-- Reads what follows the slashes behind a scheme. -/
def ofAuthority (scheme : Scheme) (s : List Char) : Except UrlFault Url :=
  let authority := s.takeWhile (!endsAuthority ·)
  let (userInfo, hostPort) :=
    match Text.cutLast '@' authority with
    | some (u, h) => (userInfoOf u, h)
    | none => (none, authority)
  let (hostText, portText) := splitPort false hostPort
  if hostText = [] then .error .emptyHost
  else do
    let host ← Host.parse hostText
    let portNumber ← portNumber? scheme (portText.getD [])
    let ⟨path, query, fragment⟩ := splitTail (s.dropWhile (!endsAuthority ·))
    .ok { scheme, userInfo, host, portNumber, path := absolutePath path, query, fragment }

def schemeOf? (name : String) : Option Scheme :=
  if name = "http" then some .http else if name = "https" then some .https else none

/-- Reads a URL. -/
def parse (text : List Char) : Except UrlFault Url :=
  match splitScheme (clean text) with
  | none => .error .noScheme
  | some (name, rest) =>
    match schemeOf? name with
    | none => .error .otherScheme
    | some scheme => ofAuthority scheme (rest.dropWhile isSlash)

/-! ## References -/

/-- Resolves a text without scheme. -/
def joinRelative (base : Url) (s : List Char) : Except UrlFault Url :=
  match s with
  | c :: d :: r =>
    if isSlash c && isSlash d then ofAuthority base.scheme (r.dropWhile isSlash)
    else .ok (joinPath s)
  | _ => .ok (joinPath s)
where
  /-- The base with another path, query and fragment. -/
  joinPath (s : List Char) : Url :=
    let ⟨path, query, fragment⟩ := splitTail s
    match path with
    | [] => { base with query := query.or base.query, fragment }
    | c :: _ =>
      if isSlash c then { base with path := absolutePath path, query, fragment }
      else { base with path := resolve base.path.dropLast (splitPath path), query, fragment }

/-- Resolves a reference against a base. -/
def join (base : Url) (text : List Char) : Except UrlFault Url :=
  let s := clean text
  match splitScheme s with
  | none => joinRelative base s
  | some (name, rest) =>
    if name = base.scheme.name ∧ (rest.takeWhile isSlash).length < 2 then joinRelative base rest
    else parse s

/-- Adds a field to the query. -/
def appendField (u : Url) (name value : String) : Url :=
  let old := u.query.getD []
  let new := Percent.formField name ++ '=' :: Percent.formField value
  { u with query := some (if old = [] then new else old ++ '&' :: new) }

/-- The text that is sent, without the fragment. -/
def text (u : Url) : String :=
  u.scheme.name ++ "://" ++ String.ofList u.host.text ++
    (match u.portNumber with | some n => ":" ++ n.repr | none => "") ++
    String.ofList ('/' :: ['/'].intercalate u.path) ++
    match u.query with
    | some q => "?" ++ String.ofList q
    | none => ""

/-- The text with the fragment. -/
def fullText (u : Url) : String :=
  u.text ++
    match u.fragment with
    | some f => "#" ++ String.ofList f
    | none => ""

/-- How many bytes the text of a URL may have for a request. -/
def maxText : Nat := 65534

/-- Whether a URL can be requested: its host has characters of authorities only, and it is not too
    long. -/
def isRequestable (u : Url) : Bool :=
  u.host.text.all Host.isAuthorityChar && u.fullText.utf8ByteSize ≤ maxText

end Url

end OciCompose
