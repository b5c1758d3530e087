import OciCompose.Config
import OciCompose.Descriptor
import OciCompose.Layer.Staging
import OciCompose.Tar.Archive

/-
  Layers: archives of staged content with uniform attributes.
-/

namespace OciCompose

/-- A layer blob and the digest of the archive it holds. -/
structure Layer where
  blob : Bytes
  diffId : Digest
deriving DecidableEq

namespace Layer

/-- The layer of an archive, whose blob is compressed. -/
def ofTar (tar : Bytes) (gzip : Bytes → Bytes) : Layer := ⟨gzip tar, Digest.ofBytes tar⟩

def digest (l : Layer) : Digest := Digest.ofBytes l.blob

def size (l : Layer) : UInt64 := UInt64.ofNat l.blob.length

def descriptor (l : Layer) (mediaType : String) : Descriptor where
  mediaType := mediaType
  digest := l.digest
  size := l.size

end Layer

/-- The mode of a file in a layer. A configured one wins; content that never was a file has 0644. -/
def entryMode (sourceMode : Option UInt32) (a : LayerAttributes) : UInt32 :=
  match a.fileMode, sourceMode, a.modePolicy with
  | some m, _, _ => m &&& 0o777
  | none, none, _ => 0o644
  | none, some m, .preserve => m &&& 0o777
  | none, some m, .normalize => if m &&& 0o111 ≠ 0 then 0o755 else 0o644

namespace Staging

/-- An entry as a member of an archive, whose paths have no slash before them. -/
def member (a : LayerAttributes) (e : String × StagedEntry) : Tar.Member where
  path := String.ofList (e.1.toList.dropWhile (· == '/'))
  mode :=
    match e.2 with
    | .file _ m => (entryMode m a).toNat
    | .symlink _ => 0o777
  uid := (a.uid.getD 0).toNat
  gid := (a.gid.getD 0).toNat
  mtime := 0
  body :=
    match e.2 with
    | .file content _ => .file content
    | .symlink target => .symlink target

/-- The archive of all entries in the order of their paths. -/
def writeTar (s : Staging) (a : LayerAttributes) : Except Error Bytes :=
  (Tar.write (s.entries.toList.map (member a))).mapError .io

end Staging

end OciCompose
