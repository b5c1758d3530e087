/-
  What a build reports while it runs.
-/

namespace OciCompose

/-- Why a child of an index is left out. -/
inductive SkipReason where
  | noPlatform
  | mediaType (mediaType : String)
  | attestation (refersTo : Option String)
  | platform (platform : String)
deriving DecidableEq, Repr

def SkipReason.message : SkipReason → String
  | .noPlatform => "no platform"
  | .mediaType t => "unsupported media type " ++ t
  | .attestation none => "attestation manifest"
  | .attestation (some d) => "attestation manifest for " ++ d
  | .platform p => "platform " ++ p ++ " not selected"

inductive Event where
  | layerBuilt (source : String) (files bytes : Nat) (digest : String)
  | baseResolved (reference mediaType layerType : String)
  | warning (message : String)
  | pushProgress (completed total : Nat)
  | pushed (reference digest mediaType : String)
  | indexEntrySkipped (position : Nat) (digest : String) (reason : SkipReason)
  | indexEntrySelected (position : Nat) (digest platform : String)
  | indexPushed (reference digest : String) (manifests : Nat)
  | failed (component message : String)
deriving DecidableEq, Repr

def Event.message : Event → String
  | layerBuilt s f b d =>
    "Layer built from " ++ s ++ " (" ++ f.repr ++ " files, " ++ b.repr ++ " bytes) " ++ d
  | baseResolved r t _ => "Base " ++ r ++ " resolved as " ++ t
  | warning m => "Warning: " ++ m
  | pushProgress c t => "Push " ++ c.repr ++ "/" ++ t.repr ++ " bytes"
  | pushed r d _ => "Pushed " ++ r ++ "@" ++ d
  | indexEntrySkipped i d r => "Skipping index entry " ++ i.repr ++ " " ++ d ++ ": " ++ r.message
  | indexEntrySelected i _ p => "Selected index entry " ++ i.repr ++ " for " ++ p
  | indexPushed r d n => "Pushed index " ++ r ++ "@" ++ d ++ " with " ++ n.repr ++ " manifests"
  | failed c m => "Error in " ++ c ++ ": " ++ m

end OciCompose
