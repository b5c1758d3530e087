import OciCompose.Reference
import OciCompose.Descriptor

/-
  Annotations that record the configured base of an image.
-/

namespace OciCompose

/-- The configured base: its name and tag as written, if it has a tag, and its digest, if it is
    pinned. -/
structure Provenance where
  name : Option String := none
  digest : Option Digest := none
deriving DecidableEq

namespace Provenance

def nameKey : String := "org.opencontainers.image.base.name"

def digestKey : String := "org.opencontainers.image.base.digest"

def ofBase? : Option Reference → Provenance
  | none => {}
  | some base => { name := base.tag.map fun t => base.name ++ ":" ++ t, digest := base.digest }

/-- Adds the annotations. `appendedTo` stands in for the digest of a base that is not pinned. -/
def annotate (p : Provenance) (a : Annotations) (appendedTo : Digest) : Annotations :=
  let a := a.insert digestKey (p.digest.getD appendedTo).toText
  match p.name with
  | some n => a.insert nameKey n
  | none => a

end Provenance

end OciCompose
