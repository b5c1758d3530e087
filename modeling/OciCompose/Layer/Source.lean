import OciCompose.Config
import OciCompose.Ignore.Rules

/-
  Checked sources of layers: a directory with limits, or a file.
-/

namespace OciCompose

/-- How a path below a source becomes a path in the image. -/
inductive ContainerPath where
  | asIs
  | under (base : String)
deriving DecidableEq

namespace ContainerPath

/-- Puts paths under a directory of the image, which begins with a slash and ends with none. -/
def ofPrefix (text : String) : Except Error ContainerPath :=
  let cs := text.toList
  if cs.head? ≠ some '/' then .error (.invalidConfig (.relativePrefix text))
  else if 1 < cs.length ∧ cs.getLast? = some '/' then .error (.invalidConfig (.trailingSlash text))
  else if text = "/" then .ok (.under "")
  else .ok (.under text)

/-- The path in the image; the source itself becomes the directory. -/
def map : ContainerPath → String → String
  | asIs, path => path
  | under base, path => if path = "." then base else base ++ "/" ++ path

end ContainerPath

/-- A directory whose files become a layer. Limits are positive. -/
structure LocalDir where
  path : String
  containerPath : ContainerPath
  ignore : IgnoreRules
  maxFiles : Option UInt64
  maxSize : Option UInt64

def LocalDir.ofConfig (c : LocalDirConfig) : Except Error LocalDir :=
  if c.path.isEmpty then .error (.invalidConfig .noDirPath)
  else do
    let containerPath ← match c.containerPath with
      | some p => if p.isEmpty then .ok .asIs else ContainerPath.ofPrefix p
      | none => .ok .asIs
    let maxSize ← match c.maxSize with
      | some s => (parseSize s).map some
      | none => .ok none
    let ignore ← IgnoreRules.ofPatterns c.ignore
    .ok {
      path := c.path
      containerPath
      ignore
      maxFiles := c.maxFiles.filter (0 < ·)
      maxSize := maxSize.filter (0 < ·) }

/-- A file at a path in the image. -/
structure LocalFile where
  path : String
  containerPath : String

def LocalFile.ofConfig (c : LocalFileConfig) : Except Error LocalFile :=
  if c.path.isEmpty then .error (.invalidConfig .noFilePath)
  else if c.containerPath.isEmpty then .error (.invalidConfig .noContainerPath)
  else
    match ContainerPath.ofPrefix c.containerPath with
    | .ok _ => .ok ⟨c.path, c.containerPath⟩
    | .error e => .error e

end OciCompose
