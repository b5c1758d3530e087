import OciCompose.Platform
import OciCompose.Tree

/-
  The configuration of a build and its JSON form.
-/

namespace OciCompose

/-- How the mode of a file is derived from that of its source. -/
inductive ModePolicy where
  /-- 0644, or 0755 if the source has an executable bit. -/
  | normalize
  /-- The permission bits of the source. -/
  | preserve
deriving DecidableEq

namespace ModePolicy

def name : ModePolicy → String
  | normalize => "normalize"
  | preserve => "preserve"

def ofName? (s : String) : Option ModePolicy :=
  if s = "normalize" then some normalize else if s = "preserve" then some preserve else none

open Json in
/-- A name, alone or as the key of a null. -/
def ofJson : Decoder ModePolicy
  | _, .string (some s) => ofName? s
  | _ + 1, .object [(some k, .null)] => ofName? k
  | _, _ => none

end ModePolicy

/-- Owner and modes of all entries of a layer. -/
structure LayerAttributes where
  uid : Option UInt32 := none
  gid : Option UInt32 := none
  /-- The mode of files, whatever the policy. -/
  fileMode : Option UInt32 := none
  modePolicy : ModePolicy := .normalize
deriving DecidableEq

namespace LayerAttributes

open Json in
def toJson (a : LayerAttributes) : Value :=
  .object <|
    given "uid" (a.uid.map (.natural ·.toNat)) ++ given "gid" (a.gid.map (.natural ·.toNat)) ++
      given "fileMode" (a.fileMode.map (.natural ·.toNat)) ++
      [("modePolicy", .string a.modePolicy.name)]

open Json Decode in
def ofJson : Decoder LayerAttributes := fun room r => do
  let (room, ms) ← record ["uid", "gid", "fileMode", "modePolicy"] room r
  let uid ← defaulted ms room "uid" (optional word32) none
  let gid ← defaulted ms room "gid" (optional word32) none
  let fileMode ← defaulted ms room "fileMode" (optional word32) none
  let modePolicy ← defaulted ms room "modePolicy" ModePolicy.ofJson .normalize
  some { uid, gid, fileMode, modePolicy }

end LayerAttributes

/-- A directory whose files become a layer. -/
structure LocalDirConfig where
  path : String
  containerPath : Option String := none
  ignore : List String := []
  maxFiles : Option UInt64 := none
  /-- A number of bytes, as a text. -/
  maxSize : Option String := none
deriving DecidableEq

namespace LocalDirConfig

open Json in
def toJson (d : LocalDirConfig) : Value :=
  .object <|
    [("path", .string d.path)] ++ given "containerPath" (d.containerPath.map .string) ++
      [("ignore", .array (d.ignore.map .string))] ++
      given "maxFiles" (d.maxFiles.map (.natural ·.toNat)) ++
      given "maxSize" (d.maxSize.map .string)

open Json Decode in
def ofJson : Decoder LocalDirConfig := fun room r => do
  let (room, ms) ← record ["path", "containerPath", "ignore", "maxFiles", "maxSize"] room r
  let path ← required ms room "path" text
  let containerPath ← defaulted ms room "containerPath" (optional text) none
  let ignore ← defaulted ms room "ignore" (list text) []
  let maxFiles ← defaulted ms room "maxFiles" (optional word64) none
  let maxSize ← defaulted ms room "maxSize" (optional text) none
  some { path, containerPath, ignore, maxFiles, maxSize }

end LocalDirConfig

/-- A file that becomes a layer. -/
structure LocalFileConfig where
  path : String
  containerPath : String
deriving DecidableEq

namespace LocalFileConfig

open Json in
def toJson (f : LocalFileConfig) : Value :=
  .object [("path", .string f.path), ("containerPath", .string f.containerPath)]

open Json Decode in
def ofJson : Decoder LocalFileConfig := fun room r => do
  let (room, ms) ← record ["path", "containerPath"] room r
  let path ← required ms room "path" text
  let containerPath ← required ms room "containerPath" text
  some { path, containerPath }

end LocalFileConfig

/-- A layer, which needs exactly one source. -/
structure LayerConfig where
  attributes : LayerAttributes := {}
  localDir : Option LocalDirConfig := none
  localFile : Option LocalFileConfig := none
deriving DecidableEq

namespace LayerConfig

open Json in
def toJson (l : LayerConfig) : Value :=
  .object <|
    [("layerAttributes", l.attributes.toJson)] ++
      given "localDir" (l.localDir.map LocalDirConfig.toJson) ++
      given "localFile" (l.localFile.map LocalFileConfig.toJson)

open Json Decode in
def ofJson : Decoder LayerConfig := fun room r => do
  let (room, ms) ← record ["layerAttributes", "localDir", "localFile"] room r
  let attributes ← defaulted ms room "layerAttributes" LayerAttributes.ofJson {}
  let localDir ← defaulted ms room "localDir" (optional LocalDirConfig.ofJson) none
  let localFile ← defaulted ms room "localFile" (optional LocalFileConfig.ofJson) none
  some { attributes, localDir, localFile }

end LayerConfig

structure EnvVar where
  name : String
  value : String := ""
deriving DecidableEq

namespace EnvVar

open Json in
def toJson (v : EnvVar) : Value := .object [("name", .string v.name), ("value", .string v.value)]

open Json Decode in
def ofJson : Decoder EnvVar := fun room r => do
  let (room, ms) ← record ["name", "value"] room r
  let name ← required ms room "name" text
  let value ← defaulted ms room "value" text ""
  some { name, value }

end EnvVar

/-- A build. An empty `base` stands for an empty image. -/
structure BuildConfig where
  base : String := ""
  tag : String := ""
  platforms : List String := []
  layers : List LayerConfig := []
  env : List EnvVar := []
deriving DecidableEq

/-- A limit in bytes, which is written as a plain number. -/
def parseSize (text : String) : Except Error UInt64 :=
  match Text.word64? (Text.trim text) with
  | some n => .ok n
  | none => .error (.invalidConfig (.size text))

/-- Refuses what can be seen to be wrong in a layer, the `i`th of its build. -/
def LayerConfig.check (i : Nat) (l : LayerConfig) : Except Error Unit :=
  let sources : Except Error Unit :=
    match l.localDir, l.localFile with
    | some _, some _ => .error (.invalidConfig (.twoSources i))
    | none, none => .error (.invalidConfig (.noSource i))
    | some dir, none =>
      match dir.maxSize with
      | some s => (parseSize s).map fun _ => ()
      | none => .ok ()
    | none, some _ => .ok ()
  match sources with
  | .error e => .error e
  | .ok () =>
    match l.attributes.fileMode with
    | some m => if m > 0o777 then .error (.invalidConfig (.fileMode i m.toNat)) else .ok ()
    | none => .ok ()

namespace BuildConfig

open Json in
def toJson (c : BuildConfig) : Value :=
  .object
    [("base", .string c.base), ("tag", .string c.tag),
      ("platforms", .array (c.platforms.map .string)),
      ("layers", .array (c.layers.map LayerConfig.toJson)),
      ("env", .array (c.env.map EnvVar.toJson))]

open Json Decode in
def ofJson : Decoder BuildConfig := fun room r => do
  let (room, ms) ← record ["base", "tag", "platforms", "layers", "env"] room r
  let base ← defaulted ms room "base" text ""
  let tag ← required ms room "tag" text
  let platforms ← defaulted ms room "platforms" (list text) []
  let layers ← defaulted ms room "layers" (list LayerConfig.ofJson) []
  let env ← defaulted ms room "env" (list EnvVar.ofJson) []
  some { base, tag, platforms, layers, env }

/-- Checks layers from the `i`th on, in order. -/
def checkLayers : Nat → List LayerConfig → Except Error Unit
  | _, [] => .ok ()
  | i, l :: ls =>
    match l.check i with
    | .ok () => checkLayers (i + 1) ls
    | .error e => .error e

/-- Refuses what can be seen to be wrong without a registry. -/
def validate (c : BuildConfig) : Except Error Unit :=
  if Text.trimChars c.tag.toList = [] then .error (.invalidConfig .noTag)
  else
    match PlatformMatcher.ofTexts c.platforms with
    | .error e => .error e
    | .ok _ => checkLayers 0 c.layers

/-- The configured variables as `KEY=VALUE`, without those that have no name. -/
def envPairs (c : BuildConfig) : List String :=
  (c.env.filter fun v => !v.name.isEmpty).map fun v => v.name ++ "=" ++ v.value

open Json in
/-- Reads and checks a configuration. -/
def ofText (s : String) : Except Error BuildConfig :=
  match Decode.ofText? ofJson s with
  | none => .error .json
  | some c =>
    match c.validate with
    | .ok () => .ok c
    | .error e => .error e

/-- Reads and checks the configuration in a file. -/
def ofFile (top : Tree) (path : String) : Except Error BuildConfig :=
  match top.readText path with
  | .ok s => ofText s
  | .error e => .error (.io e)

end BuildConfig

end OciCompose
