import OciCompose.Artifact
import OciCompose.Proofs.Document
import OciCompose.Proofs.Platform
import OciCompose.Proofs.Reference

/-
  Artifacts are rebuilt from their JSON.
  `ofText?_toJson`: what is written for an artifact is read as its `rebuilt` form. That form has the same
  reference and digest, which are read from the tag that both are written in
  (`identity_of_rebuilt`), and the same platforms if these are plain (`platforms_rebuilt_iff`).
-/

namespace OciCompose.Artifact

open Json

/-! ## What is read back -/

def fields (a : Artifact) : List (String × Option Value) :=
  [("imageName", some (.string a.imageName)), ("tag", some (.string a.tagRef)),
    ("mediaType", some (.string a.mediaType)),
    ("platforms", some (.array ((a.platforms.map Platform.toText).map .string))),
    ("base", if a.baseRef.isEmpty then none else some (.string a.baseRef))]

/-- An artifact as its members tell it. -/
def rebuilt (a : Artifact) : Artifact :=
  ofParts a.imageName a.tagRef a.mediaType (a.platforms.map Platform.toText) a.baseRef

theorem ofJson_toJson (a : Artifact) (room : Nat) :
    ofJson (room + 2) a.toJson.reading = some a.rebuilt := by
  have hl : Layout ["imageName", "tag", "mediaType", "platforms", "base"] a.fields [] :=
    ⟨rfl, by decide, nofun⟩
  have hjson : a.toJson = .object (written a.fields ++ []) := by
    simp [toJson, fields, written_cons, given_some, given_ite, written_nil]
  unfold ofJson
  rw [hjson]
  simp only [bind, hl.record, Option.bind_some, Option.bind_eq_some_iff]
  exact ⟨a.imageName, hl.required rfl (readsBack_text _ _), a.tagRef,
    hl.required rfl (readsBack_text _ _), a.mediaType, hl.present rfl (readsBack_text _ _),
    a.platforms.map Platform.toText,
    hl.present rfl (readsBack_list fun s _ => readsBack_text room s), a.baseRef,
    hl.unlessBlank rfl, rfl⟩

theorem ofText?_toJson (a : Artifact) : Decode.ofText? ofJson a.toJson.compact = some a.rebuilt :=
  (Decode.ofText?_compact ofJson a.toJson).trans (a.ofJson_toJson 125)

theorem ofBytes?_toJson (a : Artifact) : Decode.ofBytes? ofJson a.toJson.bytes = some a.rebuilt :=
  (Decode.ofBytes?_bytes ofJson a.toJson).trans (a.ofJson_toJson 125)

/-! ## Identity -/

/-- The artifact of something that was pushed to a tag under a digest. -/
inductive IsOf (tag : Reference) (hash : Digest) : Artifact → Prop
  | image (mediaType : String) (platform : Option Platform) (configDigest : Digest)
      (baseRef : String) : IsOf tag hash (singleImage tag hash mediaType platform configDigest baseRef)
  | index (mediaType : String) (index : ImageIndex) (baseRef : String) :
      IsOf tag hash (indexImage tag hash mediaType index baseRef)

theorem IsOf.tagRef {tag : Reference} {hash : Digest} {a : Artifact} (h : a.IsOf tag hash) :
    a.tagRef = tag.written ++ "@" ++ hash.toText := by
  cases h <;> rfl

/-- The last at sign of a tag is the one before the digest. -/
theorem cutLast_append_digest (s : String) {d : Digest} (h : '@' ∉ d.algorithm.toList) :
    Text.cutLast '@' (s ++ "@" ++ d.toText).toList = some (s.toList, d.toText.toList) := by
  rw [Reference.toList_append_digest]
  exact Text.cutLast_eq_some_iff.2 ⟨rfl, Digest.at_not_mem_toText h⟩

theorem IsOf.rebuilt {tag : Reference} {hash : Digest} {a : Artifact} (h : a.IsOf tag hash)
    (htag : tag.IsObtained) (hat : '@' ∉ hash.algorithm.toList) :
    a.rebuilt.reference = some tag ∧ a.rebuilt.hash = some hash := by
  unfold Artifact.rebuilt ofParts
  rw [h.tagRef, cutLast_append_digest _ hat]
  dsimp only
  rw [String.ofList_toList, htag.parse_written, Option.bind_some, hash.parse_ofList_toText]
  exact ⟨rfl, rfl⟩

/-- The JSON of an artifact tells all about what was pushed but the digest of a config. -/
theorem identity_of_rebuilt {tag : Reference} {hash : Digest} {a : Artifact}
    (htag : tag.IsObtained) (hhash : hash.algorithm = "sha256") (ha : a.IsOf tag hash) :
    ∃ b, Decode.ofText? ofJson a.toJson.compact = some b ∧
      Decode.ofBytes? ofJson a.toJson.bytes = some b ∧
      b.imageName = a.imageName ∧ b.tagRef = a.tagRef ∧ b.mediaType = a.mediaType ∧
      b.baseRef = a.baseRef ∧ b.reference = a.reference ∧ b.hash = a.hash ∧ b.http? = a.http? ∧
      b.configDigest = none := by
  have hat : '@' ∉ hash.algorithm.toList := by
    rw [hhash]
    decide
  obtain ⟨hreference, hdigest⟩ := ha.rebuilt htag hat
  have hself : a.reference = some tag ∧ a.hash = some hash := by
    cases ha <;> exact ⟨rfl, rfl⟩
  have hsame : a.rebuilt.reference = a.reference ∧ a.rebuilt.hash = a.hash :=
    ⟨hreference.trans hself.1.symm, hdigest.trans hself.2.symm⟩
  refine ⟨a.rebuilt, a.ofText?_toJson, a.ofBytes?_toJson, rfl, rfl, rfl, rfl, hsame.1, hsame.2, ?_,
    rfl⟩
  unfold http?
  rw [hsame.1, hsame.2]

/-- The tag has a port, a tag and a digest already, with an at sign in it. -/
theorem identity_of_rebuilt_pinned : ∃ tag b,
    Reference.parse "r.io:5000/b:v@p@q:3" = .ok tag ∧
    Decode.ofText? ofJson
      (singleImage tag (Digest.ofBytes []) "t" none (Digest.ofBytes []) "").toJson.compact = some b ∧
    b.reference = some tag ∧ b.hash = some (Digest.ofBytes []) := by
  obtain ⟨tag, htag⟩ : ∃ tag, Reference.parse "r.io:5000/b:v@p@q:3" = .ok tag := ⟨_, rfl⟩
  have himage : IsOf tag (Digest.ofBytes []) (singleImage tag _ "t" none (Digest.ofBytes []) "") :=
    .image ..
  obtain ⟨b, hb, -, -, -, -, -, hreference, hhash, -⟩ :=
    identity_of_rebuilt (.parsed htag) rfl himage
  exact ⟨tag, b, htag, hb, hreference, hhash⟩

/-! ## Platforms -/

theorem platforms_rebuilt (a : Artifact) :
    a.rebuilt.platforms = a.platforms.map fun p => Platform.parseLenient p.toText := by
  unfold rebuilt ofParts
  dsimp only
  rw [List.map_map]
  rfl

theorem platforms_rebuilt_iff (a : Artifact) :
    a.rebuilt.platforms = a.platforms ↔ ∀ p ∈ a.platforms, p.IsPlain := by
  have hid : a.platforms = a.platforms.map id := (List.map_id _).symm
  rw [platforms_rebuilt]
  conv => lhs; rhs; rw [hid]
  rw [List.map_inj_left]
  exact forall₂_congr fun p _ => p.parseLenient_toText_iff

end OciCompose.Artifact
