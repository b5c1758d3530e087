import OciCompose.Layer.Builder
import OciCompose.MultiPlatform

/-
  Builds from end to end: layers first, then one image or all images of an index, by what the base
  turns out to be.
-/

namespace OciCompose.Build

variable {σ : Type}

/-- Several platforms are no restriction if the base is a single image, which is worth a warning. -/
def platformWarning (c : BuildConfig) : List Event :=
  if 1 < c.platforms.length then
    [.warning (c.platforms.length.repr ++ " platforms configured but the base is a single image, " ++
      "ignoring the platform restriction")]
  else []

/-- Appends to one image and pushes it to its tag. -/
def appendSingle (r : Registry σ) (a : Appender) (layers : List Layer) (baseRef : String) :
    Build σ Artifact := do
  let (base, a) ← a.resolveBase r
  let result ← fun w =>
    let (result, _, w) := a.append r layers w
    (result, w)
  return Artifact.singleImage a.tag result.hash base.mediaType result.descriptor.platform
    result.configDigest baseRef

/-- Appends layers to the configured base and pushes to the configured tag. -/
def append (r : Registry σ) (c : BuildConfig) (layers : List Layer) : Build σ Artifact := do
  let tag ← ofExcept (Reference.parse c.tag)
  let matcher ← ofExcept (PlatformMatcher.ofTexts c.platforms)
  let envs := c.envPairs
  if Text.trimChars c.base.toList = [] then
    reportAll (platformWarning c)
    appendSingle r { base := none, tag, envs } layers ""
  else
    let base ← ofExcept (Reference.parse c.base)
    let provenance := Provenance.ofBase? (some base)
    let raw ← call (r.getManifest base)
    if raw.kind.isIndex then
      if base.digest.isNone then throw (.invalidReference c.base .indexNotPinned)
      let assembler ← IndexAssembler.select r base raw matcher
      let each : IndexAssembler.LayerAppend := { layers, envs, provenance }
      let assembled ← assembler.push r (each.append r tag) tag c.base
      return assembled.artifact
    else
      reportAll (platformWarning c)
      appendSingle r { base := some base, tag, envs, provenance := some provenance } layers c.base

/-- Builds layers in order, up to the first that fails. -/
def layers (top : Tree) (gzip : Bytes → Bytes) : List LayerConfig → Build σ (List Layer)
  | [] => pure []
  | c :: cs => do
    let o := Layer.ofConfig top c gzip
    reportAll o.events
    let l ← ofExcept o.result
    let ls ← layers top gzip cs
    return l :: ls

/-- Checks the configuration, builds its layers from a file tree, and appends them. -/
def run (r : Registry σ) (top : Tree) (c : BuildConfig) (gzip : Bytes → Bytes := id) :
    Build σ Artifact := do
  ofExcept c.validate
  let ls ← layers top gzip c.layers
  append r c ls

end OciCompose.Build
