import OciCompose.Event
import OciCompose.Layer.Basic
import OciCompose.Layer.Source
import OciCompose.Walk

/-
  Building layers from files. What a build of a layer reports comes with its result, whether or not
  there is one. How blobs are compressed is left to a parameter; without it they are not.
-/

namespace OciCompose

namespace Layer

/-- A layer, or why there is none, and what was reported on the way. -/
structure Outcome where
  result : Except Error Layer
  events : List Event

/-- Makes the archive of what is staged. -/
def ofStaging (source : String) (s : Staging) (a : LayerAttributes) (gzip : Bytes → Bytes) : Outcome :=
  match s.writeTar a with
  | .error e => ⟨.error e, []⟩
  | .ok tar =>
    let layer := ofTar tar gzip
    ⟨.ok layer, [.layerBuilt source s.size s.totalSize.toNat layer.digest.toText]⟩

/-- A layer of content that is there already. -/
def ofMap (s : Staging) (a : LayerAttributes) (gzip : Bytes → Bytes := id) : Outcome :=
  let source := "path content map"
  if s.isEmpty then ⟨.error (.emptyLayer source), []⟩ else ofStaging source s a gzip

/-- A layer of one file. -/
def ofFile (top : Tree) (f : LocalFile) (a : LayerAttributes) (gzip : Bytes → Bytes) : Outcome :=
  match top.resolve f.path with
  | .error e => ⟨.error (.io e), []⟩
  | .ok (.file content mode) =>
    if Tree.isReadable mode then
      ofStaging f.path
        (Staging.empty.insert f.containerPath (.file content (some (Tree.fileType ||| mode)))) a gzip
    else ⟨.error (.io .permissionDenied), []⟩
  | .ok _ => ⟨.error (.invalidConfig (.notRegular f.path)), []⟩

/-- What is staged of a directory so far: the entries, the bytes of the files met, and the warnings. -/
structure Intake where
  staging : Staging
  bytes : UInt64
  events : List Event

def Intake.empty : Intake := ⟨.empty, 0, []⟩

/-- The error of a limit that the next file exceeds. -/
def overLimit? (d : LocalDir) (i : Intake) (f : SourceFile) : Option Error :=
  let total := i.bytes + UInt64.ofNat f.size
  match d.maxFiles.filter fun m => m.toNat ≤ i.staging.size with
  | some m => some (.limitExceeded .files (i.staging.size + 1) m.toNat)
  | none => (d.maxSize.filter (· < total)).map fun m =>
      .limitExceeded .size total.toNat m.toNat

/-- Why the next file is not taken in: it exceeds a limit, or it may not be read. -/
def refusal? (d : LocalDir) (i : Intake) (f : SourceFile) : Option Error :=
  match overLimit? d i f with
  | some e => some e
  | none => if f.isReadable then none else some (.io .permissionDenied)

/-- Takes a file in. A symlink that leads out of the source is left out with a warning. -/
def Intake.add (d : LocalDir) (i : Intake) (f : SourceFile) : Intake :=
  let place := d.containerPath.map f.relative
  let bytes := i.bytes + UInt64.ofNat f.size
  match f.kind with
  | .file content => { i with bytes, staging := i.staging.insert place (.file content (some f.mode)) }
  | .symlink target =>
    if Path.isAbsolute target then
      { i with
        bytes
        events := i.events ++ [.warning ("skipping symlink " ++ f.relative ++
          " pointing outside the source tree: " ++ target)] }
    else { i with bytes, staging := i.staging.insert place (.symlink target) }

/-- Takes files in one after the other, up to the first that is refused. -/
def Intake.addAll (d : LocalDir) : Intake → List SourceFile → Option Error × Intake
  | i, [] => (none, i)
  | i, f :: fs =>
    match refusal? d i f with
    | some e => (some e, i)
    | none => addAll d (i.add d f) fs

/-- A layer of a directory. -/
def ofDir (top : Tree) (d : LocalDir) (a : LayerAttributes) (gzip : Bytes → Bytes) : Outcome :=
  match top.walk d.path d.ignore with
  | .error e => ⟨.error e, []⟩
  | .ok files =>
    match Intake.addAll d .empty files with
    | (some e, i) => ⟨.error e, i.events⟩
    | (none, i) =>
      if i.staging.isEmpty then ⟨.error (.emptyLayer d.path), i.events⟩
      else
        let o := ofStaging d.path i.staging a gzip
        ⟨o.result, i.events ++ o.events⟩

/-- A layer of the source that is configured. -/
def ofConfig (top : Tree) (c : LayerConfig) (gzip : Bytes → Bytes := id) : Outcome :=
  match c.localDir, c.localFile with
  | some d, none =>
    match LocalDir.ofConfig d with
    | .ok d => ofDir top d c.attributes gzip
    | .error e => ⟨.error e, []⟩
  | none, some f =>
    match LocalFile.ofConfig f with
    | .ok f => ofFile top f c.attributes gzip
    | .error e => ⟨.error e, []⟩
  | _, _ => ⟨.error (.invalidConfig .notOneSource), []⟩

end Layer

end OciCompose
