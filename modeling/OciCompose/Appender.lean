import OciCompose.Environment
import OciCompose.Layer.Basic
import OciCompose.ImageConfig
import OciCompose.Provenance
import OciCompose.Push

/-
  Appending layers to one base image. The base is read once; its dialect decides the media type of
  the layers.
-/

namespace OciCompose

/-- A base image after its manifest and config were read. `reference` is none for the empty one. -/
structure ResolvedBase where
  reference : Option Reference
  raw : RawManifest
  manifest : ImageManifest
  config : ImageConfig
  kind : ManifestKind

namespace ResolvedBase

/-- An image without layers. -/
def empty : ResolvedBase :=
  let config := ImageConfig.empty
  let manifest : ImageManifest := {
    schemaVersion := 2
    mediaType := some MediaType.ociManifest
    config := {
      mediaType := MediaType.ociConfig
      digest := Digest.ofBytes config.bytes
      size := UInt64.ofNat config.bytes.length } }
  { reference := none
    raw := ⟨MediaType.ociManifest, manifest.bytes⟩
    manifest
    config
    kind := .ociManifest }

def mediaType (b : ResolvedBase) : String := b.raw.mediaType

/-- The media type of layers appended to this base. -/
def layerMediaType (b : ResolvedBase) : String := b.kind.layerMediaType

def digest (b : ResolvedBase) : Digest := b.raw.digest

variable {σ : Type}

/-- Reads a base from a registry. Only image manifests are bases. -/
def fetch (r : Registry σ) (base : Reference) : Call σ ResolvedBase := do
  let raw ← r.getManifest base
  let kind := raw.kind
  if !kind.isImage then throw (.unsupportedMediaType raw.mediaType base.toText)
  let some manifest := Json.Decode.ofBytes? ImageManifest.ofJson raw.bytes | throw .json
  let configBytes ← r.getBlob base manifest.config.digest
  let some config := Json.Decode.ofBytes? ImageConfig.ofJson configBytes | throw .json
  return { reference := some base, raw, manifest, config, kind }

end ResolvedBase

/-- An appended layer as the result has it. -/
structure AddedLayer where
  mediaType : String
  size : UInt64
  digest : Digest
  platform : Option Platform := none
deriving DecidableEq

namespace AddedLayer

open Json in
def toJson (l : AddedLayer) : Value :=
  .object <|
    [("mediaType", .string l.mediaType), ("size", .natural l.size.toNat),
      ("digest", .string l.digest.toText)] ++
      given "platform" (l.platform.map Platform.toJson)

open Json Decode in
def ofJson : Decoder AddedLayer := fun room r => do
  let (room, ms) ← record ["mediaType", "size", "digest", "platform"] room r
  let mediaType ← required ms room "mediaType" text
  let size ← required ms room "size" word64
  let digest ← required ms room "digest" Decode.digest
  let platform ← defaulted ms room "platform" (optional Platform.ofJson) none
  some { mediaType, size, digest, platform }

end AddedLayer

/-- The layers of a result behind those of its base, which have to be its first ones. -/
def layersDelta (base result : ImageManifest) (platform : Option Platform) :
    Except Error (List AddedLayer) :=
  let n := base.layers.length
  if (base.layers.map Descriptor.digest).isPrefixOf (result.layers.map Descriptor.digest) then
    .ok ((result.layers.drop n).map fun d => ⟨d.mediaType, d.size, d.digest, platform⟩)
  else .error (.contract (.notAPrefix n))

/-- A pushed image. `descriptor` is how an index refers to it. -/
structure AppendResult where
  hash : Digest
  descriptor : Descriptor
  addedLayers : List AddedLayer
  configDigest : Digest
deriving DecidableEq

/-- An appender for one base and one result. `byDigest` pushes without a tag. -/
structure Appender where
  base : Option Reference
  tag : Reference
  envs : List String := []
  provenance : Option Provenance := none
  byDigest : Bool := false
  /-- The base, once it is resolved. -/
  state : Option ResolvedBase := none

namespace Appender

variable {σ : Type}

/-- The history entry of an appended layer. -/
def historyEntry : Json.Value :=
  .object [("created", .string "1970-01-01T00:00:00Z"), ("created_by", .string "layerstack append")]

/-- The config of the result. -/
def configOf (a : Appender) (base : ResolvedBase) (layers : List Layer) : ImageConfig :=
  let c := base.config
  let c := { c with
    rootfs := { c.rootfs with diffIds := c.rootfs.diffIds ++ layers.map Layer.diffId }
    history := c.history ++ layers.map fun _ => historyEntry }
  if a.envs.isEmpty then c
  else { c with
    config := some { c.config.getD {} with env := some (Environment.override c.env a.envs) } }

/-- The manifest of the result, with a config. -/
def manifestOf (a : Appender) (base : ResolvedBase) (layers : List Layer) (config : ImageConfig) :
    ImageManifest :=
  let m := base.manifest
  { m with
    config := {
      mediaType := m.config.mediaType
      digest := Digest.ofBytes config.bytes
      size := UInt64.ofNat config.bytes.length }
    layers := m.layers ++ layers.map fun l => l.descriptor base.layerMediaType
    annotations :=
      match a.provenance, base.reference with
      | some p, some _ => some (p.annotate (m.annotations.getD .empty) base.digest)
      | _, _ => m.annotations }

/-- Where a manifest of the result goes. -/
def target (a : Appender) (raw : RawManifest) : Reference :=
  if a.byDigest then a.tag.withDigest raw.digest else a.tag

/-- What is written for a result: layers of a base in another repository are taken over, appended
    layers and the config are uploaded. -/
def planOf (a : Appender) (base : ResolvedBase) (layers : List Layer) (config : ImageConfig)
    (raw : RawManifest) : PushPlan :=
  let elsewhere := base.reference.filter fun b => !b.sameRepository a.tag
  { baseLayers :=
      match elsewhere with
      | some _ => base.manifest.layers.map fun d => (d.digest, d.size)
      | none => []
    baseRepository := elsewhere
    blobs := layers.map (fun l => (l.digest, l.blob)) ++
      [(Digest.ofBytes config.bytes, config.bytes)]
    manifest := raw
    target := a.target raw }

/-- Composes onto a resolved base and pushes the result. -/
def compose (a : Appender) (r : Registry σ) (base : ResolvedBase) (layers : List Layer) :
    Build σ AppendResult := do
  let config := a.configOf base layers
  let manifest := a.manifestOf base layers config
  let raw : RawManifest := ⟨base.mediaType, manifest.bytes⟩
  (a.planOf base layers config raw).push r
  Build.report (.pushed (a.target raw).toText raw.digest.toText raw.mediaType)
  let platform := config.platform?
  let addedLayers ← Build.ofExcept (layersDelta base.manifest manifest platform)
  return {
    hash := raw.digest
    descriptor := { mediaType := raw.mediaType, digest := raw.digest, size := raw.size, platform }
    addedLayers
    configDigest := Digest.ofBytes config.bytes }

/-- Reads the base, which may be done once. The result knows it. -/
def resolveBase (a : Appender) (r : Registry σ) : Build σ (ResolvedBase × Appender) := do
  if a.state.isSome then throw (.contract .resolvedTwice)
  let base ← match a.base with
    | none => pure ResolvedBase.empty
    | some b => Build.call (ResolvedBase.fetch r b)
  let shown := match a.base with
    | none => "(empty)"
    | some b => b.toText
  Build.report (.baseResolved shown base.mediaType base.layerMediaType)
  return (base, { a with state := some base })

/-- Appends layers in order, reading the base first if that has not been done; the appender knows the
    base afterwards, whether or not the push succeeds. -/
def append (a : Appender) (r : Registry σ) (layers : List Layer) (w : Run σ) :
    Except Error AppendResult × Appender × Run σ :=
  match a.state with
  | some base =>
    let (result, w) := a.compose r base layers w
    (result, a, w)
  | none =>
    match a.resolveBase r w with
    | (.error e, w) => (.error e, a, w)
    | (.ok (base, a), w) =>
      let (result, w) := a.compose r base layers w
      (result, a, w)

end Appender

end OciCompose
