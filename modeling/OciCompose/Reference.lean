import OciCompose.Digest

/-
  Image references such as `ghcr.io/org/app:v1` or `example.com/base:3@sha256:…`.
  A reference keeps its text as written beside the parts that a registry needs.
-/

namespace OciCompose

/-- An image reference. `name` is the written text without tag and digest. -/
structure Reference where
  written : String
  name : String
  registry : String
  repository : String
  tag : Option String
  digest : Option Digest
deriving DecidableEq

namespace Reference

/-- The registry of a reference that names none. -/
def defaultRegistry : String := "docker.io"

/-- The tag of a reference that has neither tag nor digest. -/
def defaultTag : String := "latest"

def isLowerAlnum (c : Char) : Bool := ('a' ≤ c && c ≤ 'z') || ('0' ≤ c && c ≤ '9')

def isTagStart (c : Char) : Bool :=
  ('A' ≤ c && c ≤ 'Z') || ('a' ≤ c && c ≤ 'z') || ('0' ≤ c && c ≤ '9') || c == '_'

/-- One to 128 letters, digits, `_`, `.` and `-`, the first of which is neither `.` nor `-`. -/
def isTag : List Char → Bool
  | [] => false
  | c :: cs => isTagStart c && cs.length ≤ 127 && cs.all fun x => isTagStart x || x == '.' || x == '-'

/-- Where in a repository path a reader is. -/
inductive Place where
  /-- A run has to begin here. -/
  | start
  /-- Inside a run of letters and digits. -/
  | run
  /-- After the first underscore behind a run. -/
  | underscore
  /-- Among the dashes behind a run. -/
  | dashes

/-- Components of lower-case runs, joined by `/`; the runs of a component are separated by one `.`,
    by `_` or `__`, or by dashes. -/
def isRepositoryFrom : Place → List Char → Bool
  | .run, [] => true
  | _, [] => false
  | .start, c :: cs => isLowerAlnum c && isRepositoryFrom .run cs
  | .run, c :: cs =>
    if isLowerAlnum c then isRepositoryFrom .run cs
    else if c = '.' ∨ c = '/' then isRepositoryFrom .start cs
    else if c = '_' then isRepositoryFrom .underscore cs
    else c == '-' && isRepositoryFrom .dashes cs
  | .underscore, c :: cs =>
    if isLowerAlnum c then isRepositoryFrom .run cs
    else c == '_' && isRepositoryFrom .start cs
  | .dashes, c :: cs =>
    if isLowerAlnum c then isRepositoryFrom .run cs
    else c == '-' && isRepositoryFrom .dashes cs

def isRepository (s : List Char) : Bool := isRepositoryFrom .start s

/-- A colon after the last slash separates the tag; one before it belongs to the registry. -/
def splitTag (s : List Char) : List Char × Option (List Char) :=
  match Text.cutLast '/' s with
  | some (dirs, last) =>
    match Text.cutLast ':' last with
    | some (n, t) => (dirs ++ '/' :: n, some t)
    | none => (s, none)
  | none =>
    match Text.cutLast ':' s with
    | some (n, t) => (n, some t)
    | none => (s, none)

/-- A first component with a dot or a colon, or `localhost`, names a registry. -/
def isRegistry (s : List Char) : Bool := s.contains '.' || s.contains ':' || s == "localhost".toList

/-- The registry and the repository that a name stands for. -/
def splitName (name : List Char) : List Char × List Char :=
  match Text.cut '/' name with
  | some (first, rest) =>
    if isRegistry first then (first, rest) else (defaultRegistry.toList, name)
  | none => (defaultRegistry.toList, "library/".toList ++ name)

/-- Reads the name and tag of a reference whose digest is already read. -/
def ofNameTag (written nameTag : List Char) (digest : Option Digest) : Except Error Reference :=
  let (name, tag) := splitTag nameTag
  let (registry, repository) := splitName name
  let refuse f := .error (.invalidReference (String.ofList written) f)
  if name = [] then refuse .missingRepository
  else if tag.any fun t => !isTag t then refuse .badTag
  else if !isRepository repository then refuse .badRepository
  else .ok {
    written := String.ofList written
    name := String.ofList name
    registry := String.ofList registry
    repository := String.ofList repository
    tag := if tag.isNone && digest.isNone then some defaultTag else tag.map String.ofList
    digest := digest }

/-- Reads a reference; white space around it does not count. -/
def parse (text : String) : Except Error Reference :=
  let s := Text.trimChars text.toList
  if s = [] then .error (.invalidReference "" .empty)
  else
    match Text.cut '@' s with
    | some (nameTag, d) =>
      match Digest.parse (String.ofList d) with
      | .ok digest => ofNameTag s nameTag (some digest)
      | .error e => .error e
    | none => ofNameTag s s none

/-- The tag if there is one, else the digest. -/
def identifier (r : Reference) : String :=
  match r.tag, r.digest with
  | some t, _ => t
  | none, some d => d.toText
  | none, none => defaultTag

/-- What a manifest of this reference is looked up by: the digest if there is one, else the tag. -/
def lookupKey (r : Reference) : String :=
  match r.digest with
  | some d => d.toText
  | none => r.identifier

/-- Registry and repository. -/
def context (r : Reference) : String := r.registry ++ "/" ++ r.repository

/-- Another digest of the same repository, without tag. -/
def withDigest (r : Reference) (d : Digest) : Reference :=
  { r with written := r.name ++ "@" ++ d.toText, tag := none, digest := some d }

def sameRepository (r s : Reference) : Bool :=
  r.registry == s.registry && r.repository == s.repository

/-- The reference in full. -/
def toText (r : Reference) : String :=
  r.context ++ (match r.tag with | some t => ":" ++ t | none => "") ++
    match r.digest with
    | some d => "@" ++ d.toText
    | none => ""

end Reference

end OciCompose
