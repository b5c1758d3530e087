import OciCompose.Appender
import OciCompose.Artifact

/-
  Composing indexes: the same layers are appended to each selected child of a base index, and an
  index of only the new children is pushed last. The first failure ends the build before the index
  is pushed.
-/

namespace OciCompose

/-- Why a child is left out, if it is. The first reason counts. -/
def Descriptor.skipReason? (child : Descriptor) (m : PlatformMatcher) : Option SkipReason :=
  match child.platform with
  | none => some .noPlatform
  | some p =>
    if ManifestKind.ofMediaType child.mediaType ≠ .ociManifest then
      some (.mediaType child.mediaType)
    else if child.isAttestation then
      some (.attestation (child.annotation? referenceDigestKey))
    else if !m.accepts (some p) then some (.platform p.toText)
    else none

/-- A selected child as a base, pinned by digest, at its position in the base index. `composed` is the
    digest of its result once there is one. -/
structure SelectedChild where
  base : Reference
  position : Nat
  platform : Option Platform
  composed : Option Digest := none
deriving DecidableEq

/-- A base index whose children are selected. `canvas` is the index without children. -/
structure IndexAssembler where
  base : Reference
  raw : RawManifest
  canvas : ImageIndex
  children : List SelectedChild

/-- A pushed index, with a result for each child. -/
structure AssembledIndex where
  artifact : Artifact
  index : ImageIndex
  results : List AppendResult

namespace IndexAssembler

variable {σ : Type}

/-- Goes through children from a position on: those left out are reported, and so are those
    selected, unless they turn out to be indexes themselves. -/
def selectFrom (r : Registry σ) (base : Reference) (m : PlatformMatcher) :
    Nat → List Descriptor → Build σ (List SelectedChild)
  | _, [] => pure []
  | position, child :: rest =>
    match child.skipReason? m with
    | some reason => do
      Build.report (.indexEntrySkipped position child.digest.toText reason)
      selectFrom r base m (position + 1) rest
    | none => do
      let pinned := base.withDigest child.digest
      let raw ← Build.call (r.getManifest pinned)
      if raw.kind.isIndex then throw (.nestedIndex pinned.toText raw.mediaType)
      let shown := (child.platform.map Platform.toText).getD ""
      Build.report (.indexEntrySelected position child.digest.toText shown)
      let selected ← selectFrom r base m (position + 1) rest
      return { base := pinned, position, platform := child.platform } :: selected

/-- An index that is composed has to be pinned. -/
def requirePinned (base : Reference) : Except Error Unit :=
  if base.digest.isSome then .ok ()
  else .error (.invalidReference base.written .childrenNotPinned)

/-- The error of a selection that is empty, or leaves out a configured platform. -/
def selectionError? (base : Reference) (raw : RawManifest) (m : PlatformMatcher)
    (children : List SelectedChild) : Option Error :=
  let unmatched := m.unmatched (children.filterMap SelectedChild.platform)
  if children.isEmpty then some (.noPlatformSelected base.toText raw.text)
  else if unmatched.isEmpty then none
  else some (.unmatchedPlatforms base.toText children.length m.wanted.length
    (unmatched.map Platform.toText) raw.text)

/-- Selects children of an index that was read already. Only OCI indexes are composed. -/
def select (r : Registry σ) (base : Reference) (raw : RawManifest) (m : PlatformMatcher) :
    Build σ IndexAssembler := do
  Build.ofExcept (requirePinned base)
  if raw.kind ≠ .ociIndex then throw (.unsupportedMediaType raw.mediaType base.toText)
  let some index := Json.Decode.ofBytes? ImageIndex.ofJson raw.bytes | throw .json
  let children ← selectFrom r base m 0 index.manifests
  match selectionError? base raw m children with
  | some e => throw e
  | none => return { base, raw, canvas := index.withoutManifests, children }

/-- Reads a pinned index and selects its children. -/
def discover (r : Registry σ) (base : Reference) (m : PlatformMatcher) : Build σ IndexAssembler := do
  Build.ofExcept (requirePinned base)
  let raw ← Build.call (r.getManifest base)
  select r base raw m

/-- What is appended to each child. -/
structure LayerAppend where
  layers : List Layer
  envs : List String
  provenance : Provenance

/-- The appender of a child, which pushes without a tag. -/
def LayerAppend.appender (each : LayerAppend) (child : SelectedChild) (tag : Reference) :
    Appender where
  base := some child.base
  tag := tag
  envs := each.envs
  provenance := some each.provenance
  byDigest := true

/-- Appends to a child with an appender of its own. -/
def LayerAppend.append (each : LayerAppend) (r : Registry σ) (tag : Reference)
    (child : SelectedChild) : Build σ AppendResult := fun w =>
  let (result, _, w) := (each.appender child tag).append r each.layers w
  (result, w)

/-- The entry of a result in the new index, with the platform that the base index gives the child. -/
def entryOf (child : SelectedChild) (result : AppendResult) : Descriptor :=
  { result.descriptor with platform := child.platform.or result.descriptor.platform }

/-- Composes children in order by some way to append to one, each with its entry in the new index. -/
def composeChildren (append : SelectedChild → Build σ AppendResult) :
    List SelectedChild → Build σ (List (Descriptor × AppendResult))
  | [] => pure []
  | child :: rest => do
    match child.composed with
    | some d => throw (.contract (.alreadyComposed child.position d.toText))
    | none =>
      let result ← Build.reporting (append child) fun e =>
        .failed "index" (child.base.toText ++ ": " ++ e.message)
      let others ← composeChildren append rest
      return (entryOf child result, result) :: others

/-- Composes all children, then pushes the new index to the tag. -/
def push (a : IndexAssembler) (r : Registry σ) (append : SelectedChild → Build σ AppendResult)
    (tag : Reference) (baseRef : String) : Build σ AssembledIndex := do
  let composed ← composeChildren append a.children
  let index := { a.canvas with manifests := a.canvas.manifests ++ composed.map Prod.fst }
  let snapshot := index.snapshot
  Build.call (r.putManifest tag snapshot)
  Build.report (.indexPushed tag.toText snapshot.digest.toText index.manifests.length)
  return {
    artifact := Artifact.indexImage tag snapshot.digest snapshot.mediaType index baseRef
    index
    results := composed.map Prod.snd }

end IndexAssembler

end OciCompose
