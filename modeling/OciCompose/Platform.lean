import OciCompose.Json.Decode
import OciCompose.Error

/-
  Platforms of images, written `os[/arch[/variant]]`, and the choice of platforms by a list of
  such texts.
-/

namespace OciCompose

structure Platform where
  architecture : String := ""
  os : String
  osVersion : Option String := none
  osFeatures : List String := []
  variant : Option String := none
deriving DecidableEq

namespace Platform

/-- The platform of up to three segments. -/
def ofSegments (os arch : List Char) (variant : Option (List Char)) : Platform where
  os := String.ofList os
  architecture := String.ofList arch
  variant := variant.map String.ofList

/-- Reads `os[/arch[/variant]]`; white space around it does not count. -/
def parse (text : String) : Except Error Platform :=
  let s := Text.trimChars text.toList
  let refuse f := .error (.invalidPlatform text f)
  if s = [] then refuse .empty
  else
    let segments := s.splitOn '/'
    if segments.length > 3 then refuse .tooManySegments
    else if segments.any List.isEmpty then refuse .emptySegment
    else
      match segments with
      | os :: arch :: rest => .ok (ofSegments os arch rest.head?)
      | [os] => .ok (ofSegments os [] none)
      | [] => refuse .empty

/-- Reads any text: segments past the third do not count, missing ones are empty. -/
def parseLenient (text : String) : Platform :=
  match text.toList.splitOn '/' with
  | os :: arch :: rest => ofSegments os arch rest.head?
  | [os] => ofSegments os [] none
  | [] => ofSegments [] [] none

def toText (p : Platform) : String :=
  p.os ++ (if p.architecture.isEmpty then "" else "/" ++ p.architecture) ++
    match p.variant with
    | some v => "/" ++ v
    | none => ""

/-- The same tuple, so that a missing variant is only like a missing variant. -/
def sameTuple (p q : Platform) : Bool :=
  p.os == q.os && p.architecture == q.architecture && p.variant == q.variant &&
    p.osVersion == q.osVersion

open Json in
def toJson (p : Platform) : Value :=
  .object <|
    [("architecture", .string p.architecture), ("os", .string p.os)] ++
      given "os.version" (p.osVersion.map .string) ++
      (if p.osFeatures.isEmpty then []
        else [("os.features", .array (p.osFeatures.map .string))]) ++
      given "variant" (p.variant.map .string)

open Json Decode in
def ofJson : Decoder Platform := fun room r => do
  let (room, ms) ← record ["architecture", "os", "os.version", "os.features", "variant"] room r
  let architecture ← defaulted ms room "architecture" text ""
  let os ← required ms room "os" text
  let osVersion ← defaulted ms room "os.version" (optional text) none
  let osFeatures ← defaulted ms room "os.features" (list text) []
  let variant ← defaulted ms room "variant" (optional text) none
  some { architecture, os, osVersion, osFeatures, variant }

end Platform

/-- A choice of platforms; none listed means all. -/
structure PlatformMatcher where
  wanted : List Platform
deriving DecidableEq

namespace PlatformMatcher

/-- The choice of the listed platforms. -/
def ofTexts (texts : List String) : Except Error PlatformMatcher :=
  match texts.mapM Platform.parse with
  | .ok ps => .ok ⟨ps⟩
  | .error e => .error e

/-- Every platform. -/
def any : PlatformMatcher := ⟨[]⟩

def isUnrestricted (m : PlatformMatcher) : Bool := m.wanted.isEmpty

/-- The listed platforms that none of `found` satisfies. -/
def unmatched (m : PlatformMatcher) (found : List Platform) : List Platform :=
  m.wanted.filter fun w => !found.any (w.sameTuple ·)

def accepts (m : PlatformMatcher) (candidate : Option Platform) : Bool :=
  m.wanted.isEmpty ||
    match candidate with
    | some c => m.wanted.any (·.sameTuple c)
    | none => false

end PlatformMatcher

end OciCompose
