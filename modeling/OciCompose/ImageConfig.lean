import OciCompose.Descriptor

/-
  Image configs: platform, environment, the layers' diff ids and their history.
  Members that are not composed here are kept in `extra`.
-/

namespace OciCompose

structure RootFs where
  kind : String := ""
  diffIds : List Digest := []
deriving DecidableEq

namespace RootFs

open Json in
def toJson (r : RootFs) : Value :=
  .object [("type", .string r.kind), ("diff_ids", .array (r.diffIds.map (.string ·.toText)))]

open Json Decode in
def ofJson : Decoder RootFs := fun room r => do
  let (room, ms) ← record ["type", "diff_ids"] room r
  let kind ← required ms room "type" text
  let diffIds ← defaulted ms room "diff_ids" (list Decode.digest) []
  some { kind, diffIds }

end RootFs

/-- How a container of the image is started. -/
structure ContainerConfig where
  env : Option (List String) := none
  extra : SortedMap Json.Value := .empty
deriving DecidableEq

namespace ContainerConfig

open Json in
def toJson (c : ContainerConfig) : Value :=
  .object <| given "Env" (c.env.map fun l => .array (l.map .string)) ++ c.extra.toList

open Json Decode in
def ofJson : Decoder ContainerConfig := fun room r => do
  let (room, ms) ← members ["Env"] room r
  let env ← defaulted ms room "Env" (optional (list text)) none
  let extra ← others ["Env"] ms room
  some { env, extra }

end ContainerConfig

structure ImageConfig where
  architecture : String := ""
  os : String := ""
  variant : Option String := none
  config : Option ContainerConfig := none
  rootfs : RootFs := {}
  history : List Json.Value := []
  extra : SortedMap Json.Value := .empty
deriving DecidableEq

namespace ImageConfig

/-- The config of an image without layers and platform. -/
def empty : ImageConfig := { config := some {}, rootfs := { kind := "layers" } }

/-- The platform that the config names, if it names an operating system. -/
def platform? (c : ImageConfig) : Option Platform :=
  if c.os.isEmpty then none
  else some {
    os := c.os
    architecture := c.architecture
    variant := c.variant
    osVersion := (c.extra.get? "os.version").bind Json.Value.string? }

def env (c : ImageConfig) : List String := (c.config.bind ContainerConfig.env).getD []

open Json in
def toJson (c : ImageConfig) : Value :=
  .object <|
    [("architecture", .string c.architecture), ("os", .string c.os)] ++
      given "variant" (c.variant.map .string) ++
      given "config" (c.config.map ContainerConfig.toJson) ++
      [("rootfs", c.rootfs.toJson)] ++
      (if c.history.isEmpty then [] else [("history", .array c.history)]) ++ c.extra.toList

def known : List String := ["architecture", "os", "variant", "config", "rootfs", "history"]

open Json Decode in
def ofJson : Decoder ImageConfig := fun room r => do
  let (room, ms) ← members known room r
  let architecture ← defaulted ms room "architecture" text ""
  let os ← defaulted ms room "os" text ""
  let variant ← defaulted ms room "variant" (optional text) none
  let config ← defaulted ms room "config" (optional ContainerConfig.ofJson) none
  let rootfs ← defaulted ms room "rootfs" RootFs.ofJson {}
  let history ← defaulted ms room "history" (list valueOf) []
  let extra ← others known ms room
  some { architecture, os, variant, config, rootfs, history, extra }

def bytes (c : ImageConfig) : Bytes := c.toJson.bytes

end ImageConfig

end OciCompose
