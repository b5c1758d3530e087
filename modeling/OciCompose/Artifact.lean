import OciCompose.Reference
import OciCompose.Manifest

/-
  What a successful push leaves behind: a description of the pushed image or index, and its JSON
  form, from which the description is rebuilt without asking a registry.
-/

namespace OciCompose

/-- `tagRef` is the configured reference with the pushed digest behind it, `baseRef` the configured
    base, empty if there is none. -/
structure Artifact where
  imageName : String
  tagRef : String
  mediaType : String
  platforms : List Platform
  baseRef : String
  reference : Option Reference
  hash : Option Digest
  configDigest : Option Digest
deriving DecidableEq

/-- Where a registry serves what was pushed. -/
structure Artifact.Http where
  host : String
  repository : String
  tag : String
  hash : Digest
deriving DecidableEq

namespace Artifact

/-- The artifact of a single image. -/
def singleImage (tag : Reference) (hash : Digest) (mediaType : String) (platform : Option Platform)
    (configDigest : Digest) (baseRef : String) : Artifact where
  imageName := tag.name
  tagRef := tag.written ++ "@" ++ hash.toText
  mediaType := mediaType
  platforms := platform.toList
  baseRef := baseRef
  reference := some tag
  hash := some hash
  configDigest := some configDigest

/-- The artifact of an index, which names the platforms of its runnable images. -/
def indexImage (tag : Reference) (hash : Digest) (mediaType : String) (index : ImageIndex)
    (baseRef : String) : Artifact where
  imageName := tag.name
  tagRef := tag.written ++ "@" ++ hash.toText
  mediaType := mediaType
  platforms := index.imagePlatforms
  baseRef := baseRef
  reference := some tag
  hash := some hash
  configDigest := none

def http? (a : Artifact) : Option Http :=
  match a.reference, a.hash with
  | some r, some h =>
    some {
      host := r.registry
      repository := r.repository
      tag := r.tag.getD Reference.defaultTag
      hash := h }
  | _, _ => none

open Json in
def toJson (a : Artifact) : Value :=
  .object <|
    [("imageName", .string a.imageName), ("tag", .string a.tagRef),
      ("mediaType", .string a.mediaType),
      ("platforms", .array (a.platforms.map (.string ·.toText)))] ++
      if a.baseRef.isEmpty then [] else [("base", .string a.baseRef)]

/-- The artifact that its written members say. The digest stands behind the last `@` of the tag. -/
def ofParts (imageName tagRef mediaType : String) (platforms : List String) (baseRef : String) :
    Artifact :=
  let (name, digest) :=
    match Text.cutLast '@' tagRef.toList with
    | some (n, d) => (n, some d)
    | none => (tagRef.toList, none)
  { imageName
    tagRef
    mediaType
    platforms := platforms.map Platform.parseLenient
    baseRef
    reference := (Reference.parse (String.ofList name)).toOption
    hash := digest.bind fun d => (Digest.parse (String.ofList d)).toOption
    configDigest := none }

open Json Decode in
def ofJson : Decoder Artifact := fun room r => do
  let (room, ms) ← record ["imageName", "tag", "mediaType", "platforms", "base"] room r
  let imageName ← required ms room "imageName" text
  let tagRef ← required ms room "tag" text
  let mediaType ← defaulted ms room "mediaType" text ""
  let platforms ← defaulted ms room "platforms" (list text) []
  let baseRef ← defaulted ms room "base" text ""
  some (ofParts imageName tagRef mediaType platforms baseRef)

end Artifact

end OciCompose
