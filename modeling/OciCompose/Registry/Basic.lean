import OciCompose.Reference
import OciCompose.Manifest

/-
  What composing images asks of a registry.
  A registry is a record of operations over some state; an operation may change the state even if it
  fails.
-/

namespace OciCompose

/-- Manifest bytes as a registry stores them, under a media type. -/
structure RawManifest where
  mediaType : String
  bytes : Bytes
deriving DecidableEq

namespace RawManifest

def digest (m : RawManifest) : Digest := Digest.ofBytes m.bytes

def kind (m : RawManifest) : ManifestKind := ManifestKind.ofMediaType m.mediaType

def size (m : RawManifest) : UInt64 := UInt64.ofNat m.bytes.length

def text (m : RawManifest) : String := Utf8.decodeLossy m.bytes

end RawManifest

/-- An index as it is pushed: under its declared media type, or that of OCI indexes. -/
def ImageIndex.snapshot (i : ImageIndex) : RawManifest where
  mediaType := i.mediaType.getD MediaType.ociIndex
  bytes := i.bytes

/-- A call to a registry with state `σ`. -/
abbrev Call (σ : Type) (α : Type) := ExceptT Error (StateM σ) α

/-- A call that is decided without the registry. -/
def Call.ofExcept (r : Except Error α) : Call σ α := fun s => (r, s)

/-- The operations of a registry. The repository is that of the reference; its tag and digest count
    for manifests only. -/
structure Registry (σ : Type) where
  getManifest : Reference → Call σ RawManifest
  getBlob : Reference → Digest → Call σ Bytes
  blobExists : Reference → Digest → Call σ Bool
  putBlob : Reference → Digest → Bytes → Call σ Unit
  /-- Takes a blob over from another repository; false if the registry did not. -/
  mountBlob : (source target : Reference) → Digest → Call σ Bool
  /-- Writes a manifest under the target's tag, or under its own digest if there is none. -/
  putManifest : Reference → RawManifest → Call σ Unit

namespace Registry

variable {σ : Type}

/-- The registry without cross-repository mounts. -/
def withoutMount (r : Registry σ) : Registry σ := { r with mountBlob := fun _ _ _ => pure false }

/-- Makes a blob available in another repository: as it is, by a mount, or by copying. -/
def copyBlob (r : Registry σ) (source target : Reference) (d : Digest) : Call σ Unit := do
  if ← r.blobExists target d then return
  if ← r.mountBlob source target d then return
  let data ← r.getBlob source d
  r.putBlob target d data

end Registry

end OciCompose
