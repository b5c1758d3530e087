import OciCompose.Descriptor
import OciCompose.MediaType

/-
  Image manifests and indexes.
  Members that are not composed here are kept in `extra`.
-/

namespace OciCompose

structure ImageManifest where
  schemaVersion : UInt32
  mediaType : Option String := none
  config : Descriptor
  layers : List Descriptor := []
  annotations : Option Annotations := none
  extra : SortedMap Json.Value := .empty
deriving DecidableEq

namespace ImageManifest

open Json in
def toJson (m : ImageManifest) : Value :=
  .object <|
    [("schemaVersion", .natural m.schemaVersion.toNat)] ++
      given "mediaType" (m.mediaType.map .string) ++
      [("config", m.config.toJson), ("layers", .array (m.layers.map Descriptor.toJson))] ++
      given "annotations" (m.annotations.map ofAnnotations) ++ m.extra.toList

def known : List String := ["schemaVersion", "mediaType", "config", "layers", "annotations"]

open Json Decode in
def ofJson : Decoder ImageManifest := fun room r => do
  let (room, ms) ← members known room r
  let schemaVersion ← required ms room "schemaVersion" word32
  let mediaType ← defaulted ms room "mediaType" (optional text) none
  let config ← required ms room "config" Descriptor.ofJson
  let layers ← defaulted ms room "layers" (list Descriptor.ofJson) []
  let annotations ← defaulted ms room "annotations" (optional (map text)) none
  let extra ← others known ms room
  some { schemaVersion, mediaType, config, layers, annotations, extra }

def bytes (m : ImageManifest) : Bytes := m.toJson.bytes

end ImageManifest

structure ImageIndex where
  schemaVersion : UInt32
  mediaType : Option String := none
  manifests : List Descriptor := []
  annotations : Option Annotations := none
  extra : SortedMap Json.Value := .empty
deriving DecidableEq

namespace ImageIndex

/-- The index without its children. -/
def withoutManifests (i : ImageIndex) : ImageIndex := { i with manifests := [] }

open Json in
def toJson (i : ImageIndex) : Value :=
  .object <|
    [("schemaVersion", .natural i.schemaVersion.toNat)] ++
      given "mediaType" (i.mediaType.map .string) ++
      [("manifests", .array (i.manifests.map Descriptor.toJson))] ++
      given "annotations" (i.annotations.map ofAnnotations) ++ i.extra.toList

def known : List String := ["schemaVersion", "mediaType", "manifests", "annotations"]

open Json Decode in
def ofJson : Decoder ImageIndex := fun room r => do
  let (room, ms) ← members known room r
  let schemaVersion ← required ms room "schemaVersion" word32
  let mediaType ← defaulted ms room "mediaType" (optional text) none
  let manifests ← defaulted ms room "manifests" (list Descriptor.ofJson) []
  let annotations ← defaulted ms room "annotations" (optional (map text)) none
  let extra ← others known ms room
  some { schemaVersion, mediaType, manifests, annotations, extra }

def bytes (i : ImageIndex) : Bytes := i.toJson.bytes

end ImageIndex

/-- The annotation that tells what an index entry refers to another one as. -/
def referenceTypeKey : String := "vnd.docker.reference.type"

/-- The annotation that tells which entry an index entry refers to. -/
def referenceDigestKey : String := "vnd.docker.reference.digest"

/-- An attestation has the platform `unknown/unknown` and is annotated as one. -/
def Descriptor.isAttestation (d : Descriptor) : Bool :=
  d.platform.any (fun p => p.toText == "unknown/unknown") &&
    d.annotation? referenceTypeKey == some "attestation-manifest"

/-- The platforms of the runnable images of an index, in order. -/
def ImageIndex.imagePlatforms (i : ImageIndex) : List Platform :=
  ((i.manifests.filter fun d => ManifestKind.ofMediaType d.mediaType = .ociManifest).filter
    fun d => !d.isAttestation).filterMap Descriptor.platform

open Json Decode in
/-- The media type that a manifest without a declared one has by its content. -/
def sniffMediaType (content : Bytes) : Except Error String :=
  match ofBytes? valueOf content with
  | none => .error .json
  | some v =>
    match (v.member? "mediaType").bind Value.string? with
    | some t => .ok t
    | none =>
      .ok (if (v.member? "manifests").isSome then MediaType.ociIndex else MediaType.ociManifest)

end OciCompose
