import OciCompose.Assoc
import OciCompose.ImageConfig
import OciCompose.Registry.Basic

/-
  A registry in memory, as a value: blobs by repository and digest, manifests by repository and tag
  or digest. Uploads can be made to fail.
-/

namespace OciCompose

/-- What a manifest is stored under. -/
inductive ManifestKey where
  | tag (t : String)
  | digest (d : Digest)
deriving DecidableEq

/-- The key that a manifest of a reference is looked up by. -/
def ManifestKey.ofReference (r : Reference) : ManifestKey :=
  match r.digest with
  | some d => .digest d
  | none => .tag (r.tag.getD Reference.defaultTag)

/-- Repositories are named by the contexts of references. `pushed` logs the manifests written as
    uploads, with their targets. -/
structure MemoryRegistry where
  blobs : Assoc (String × Digest) Bytes := .empty
  manifests : Assoc (String × ManifestKey) RawManifest := .empty
  pushed : List (String × RawManifest) := []
  blobUploads : Nat := 0
  blobFailure : Option String := none
  manifestFailure : Option String := none

namespace MemoryRegistry

def empty : MemoryRegistry := {}

def blob? (m : MemoryRegistry) (repo : Reference) (d : Digest) : Option Bytes :=
  m.blobs.get? (repo.context, d)

def hasBlob (m : MemoryRegistry) (repo : Reference) (d : Digest) : Bool :=
  (m.blob? repo d).isSome

def manifest? (m : MemoryRegistry) (r : Reference) : Option RawManifest :=
  m.manifests.get? (r.context, .ofReference r)

/-- Stores a blob under a digest. -/
def setBlob (m : MemoryRegistry) (repo : Reference) (d : Digest) (data : Bytes) : MemoryRegistry :=
  { m with blobs := m.blobs.insert (repo.context, d) data }

/-- Stores a manifest under its digest, and under the tag of its target if it has one. -/
def storeManifest (m : MemoryRegistry) (target : Reference) (raw : RawManifest) : MemoryRegistry :=
  let tagged :=
    match target.tag with
    | some t => m.manifests.insert (target.context, .tag t) raw
    | none => m.manifests
  { m with manifests := tagged.insert (target.context, .digest raw.digest) raw }

/-! ## Seeding -/

def seedBlob (m : MemoryRegistry) (repo : Reference) (data : Bytes) : MemoryRegistry :=
  m.setBlob repo (Digest.ofBytes data) data

def seedBlobs (m : MemoryRegistry) (repo : Reference) (data : List Bytes) : MemoryRegistry :=
  data.foldl (fun m b => m.seedBlob repo b) m

/-- The manifest of an image of a kind, with a config and layers. An index kind stands for its
    dialect. -/
def imageManifest (kind : ManifestKind) (config : ImageConfig) (layers : List Bytes) :
    ImageManifest where
  schemaVersion := 2
  mediaType := some <|
    match kind with
    | .other t => t
    | .dockerManifest | .dockerManifestList => MediaType.dockerManifest
    | .ociManifest | .ociIndex => MediaType.ociManifest
  config :=
    { mediaType := kind.configMediaType
      digest := Digest.ofBytes config.bytes
      size := UInt64.ofNat config.bytes.length }
  layers := layers.map fun l =>
    { mediaType := kind.layerMediaType
      digest := Digest.ofBytes l
      size := UInt64.ofNat l.length }

/-- Stores an image with its blobs. -/
def seedImage (m : MemoryRegistry) (target : Reference) (kind : ManifestKind)
    (config : ImageConfig) (layers : List Bytes) : RawManifest × MemoryRegistry :=
  let manifest := imageManifest kind config layers
  let raw : RawManifest := ⟨manifest.mediaType.getD "", manifest.bytes⟩
  (raw, (m.seedBlobs target (config.bytes :: layers)).storeManifest target raw)

def seedIndex (m : MemoryRegistry) (target : Reference) (i : ImageIndex) :
    RawManifest × MemoryRegistry :=
  (i.snapshot, m.storeManifest target i.snapshot)

/-! ## Operations -/

def getManifest (r : Reference) : Call MemoryRegistry RawManifest := fun m =>
  match m.manifest? r with
  | some raw => (.ok raw, m)
  | none => (.error (.registry .pull ("manifest unknown: " ++ r.toText)), m)

def getBlob (repo : Reference) (d : Digest) : Call MemoryRegistry Bytes := fun m =>
  match m.blob? repo d with
  | some data => (.ok data, m)
  | none => (.error (.registry .pull ("blob unknown: " ++ d.toText)), m)

def blobExists (repo : Reference) (d : Digest) : Call MemoryRegistry Bool := fun m =>
  (.ok (m.hasBlob repo d), m)

def putBlob (repo : Reference) (d : Digest) (data : Bytes) : Call MemoryRegistry Unit := fun m =>
  if Digest.ofBytes data ≠ d then
    (.error (.registry .upload ("content does not match " ++ d.toText)), m)
  else
    match m.blobFailure with
    | some reason => (.error (.registry .upload reason), m)
    | none => (.ok (), { m.setBlob repo d data with blobUploads := m.blobUploads + 1 })

def mountBlob (source target : Reference) (d : Digest) : Call MemoryRegistry Bool := fun m =>
  match m.blob? source d with
  | some data => (.ok true, m.setBlob target d data)
  | none => (.ok false, m)

def putManifest (target : Reference) (raw : RawManifest) : Call MemoryRegistry Unit := fun m =>
  match m.manifestFailure with
  | some reason => (.error (.registry .push reason), m)
  | none =>
    (.ok (), { m with pushed := m.pushed ++ [(target.toText, raw)] }.storeManifest target raw)

def registry : Registry MemoryRegistry :=
  { getManifest, getBlob, blobExists, putBlob, mountBlob, putManifest }

end MemoryRegistry

end OciCompose
