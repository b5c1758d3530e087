import OciCompose.Digest
import OciCompose.Platform

/-
  Descriptors: what a manifest says about a blob or another manifest.
-/

namespace OciCompose

abbrev Annotations := SortedMap String

/-- `extra` holds all members that are passed through untouched. -/
structure Descriptor where
  mediaType : String
  digest : Digest
  size : UInt64
  platform : Option Platform := none
  annotations : Option Annotations := none
  extra : SortedMap Json.Value := .empty
deriving DecidableEq

namespace Json

open Decode in
def Decode.digest : Decoder Digest := fun room r => do
  let s ← text room r
  (Digest.parse s).toOption

def ofAnnotations (a : Annotations) : Value := .object (a.toList.map fun (k, v) => (k, .string v))

end Json

namespace Descriptor

def annotation? (d : Descriptor) (k : String) : Option String := d.annotations.bind (·.get? k)

open Json in
def toJson (d : Descriptor) : Value :=
  .object <|
    [("mediaType", .string d.mediaType), ("digest", .string d.digest.toText),
      ("size", .natural d.size.toNat)] ++
      given "platform" (d.platform.map Platform.toJson) ++
      given "annotations" (d.annotations.map ofAnnotations) ++ d.extra.toList

/-- The members that are no extra ones. -/
def known : List String := ["mediaType", "digest", "size", "platform", "annotations"]

open Json Decode in
def ofJson : Decoder Descriptor := fun room r => do
  let (room, ms) ← members known room r
  let mediaType ← required ms room "mediaType" text
  let digest ← required ms room "digest" Decode.digest
  let size ← required ms room "size" word64
  let platform ← defaulted ms room "platform" (optional Platform.ofJson) none
  let annotations ← defaulted ms room "annotations" (optional (map text)) none
  let extra ← others known ms room
  some { mediaType, digest, size, platform, annotations, extra }

end Descriptor

end OciCompose
