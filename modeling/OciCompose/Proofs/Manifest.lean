import OciCompose.Manifest
import OciCompose.Proofs.Json.Decode

/-
  The digests that the JSON of a manifest names.
  They are read off the syntax tree, whether it comes from a manifest that is written or is decoded
  as one. So the bytes of an image say which blobs it needs (`sameBlobs_of_ofBytes?`,
  `digests_of_bytes`), and are those of no index (`bytes_ne_bytes`).
-/

namespace OciCompose

namespace Json

/-! ## Members -/

/-- The first member of a name. -/
def Raw.member? : Raw → String → Option Raw
  | .object ms, k => ms.lookup (some k)
  | _, _ => none

theorem lookup_membersReading (ms : List (String × Value)) (k : String) :
    (membersReading ms).lookup (some k) = (ms.lookup k).map Value.reading := by
  rw [membersReading_eq, ← lookup_map, ← lookup_map_some, List.map_map]
  rfl

theorem member?_reading (ms : List (String × Value)) (k : String) :
    (Value.object ms).reading.member? k = (ms.lookup k).map Value.reading :=
  lookup_membersReading ms k

/-- The members that a decoder looks at are those of the tree. -/
theorem Decode.lookup_members {known : List String} {room room' : Nat} {r : Raw}
    {ms : List (String × Raw)} (h : Decode.members known room r = some (room', ms)) (k : String) :
    ms.lookup k = r.member? k := by
  obtain ⟨-, rfl, -⟩ := members_eq_some h
  exact (lookup_map_some ms k).symm

theorem listItems_map {α β : Type} {d : Decoder α} {room : Nat} {f : Raw → Option β} {g : α → β}
    (hd : ∀ r a, d room r = some a → f r = some (g a)) {rs : List Raw} {as : List α}
    (h : Decode.listItems d room rs = some as) : rs.map f = as.map fun a => some (g a) := by
  induction rs generalizing as with
  | nil =>
    cases h
    rfl
  | cons r rs ih =>
    unfold Decode.listItems at h
    split at h
    · next a as' ha has =>
      cases h
      rw [List.map_cons, List.map_cons, hd r a ha, ih has]
    · cases h

/-! ## Digests -/

/-- The digest that a descriptor names. -/
def Raw.digest? (r : Raw) : Option Digest := (r.member? "digest").bind (Decode.digest 0)

theorem digest_room (room : Nat) (r : Raw) : Decode.digest room r = Decode.digest 0 r := by
  cases r <;> rfl

/-- The digests that the descriptors of a list name. -/
def Raw.digests (r : Raw) (k : String) : List (Option Digest) :=
  match r.member? k with
  | some (.array rs) => rs.map Raw.digest?
  | _ => []

end Json

open Json

theorem Descriptor.digest?_reading (d : Descriptor) : d.toJson.reading.digest? = some d.digest := by
  unfold Raw.digest? toJson
  rw [member?_reading]
  show (Digest.parse d.digest.toText).toOption = _
  rw [Digest.parse_toText]
  rfl

theorem Descriptor.digest?_of_ofJson {room : Nat} {r : Raw} {d : Descriptor}
    (h : Descriptor.ofJson room r = some d) : r.digest? = some d.digest := by
  simp only [ofJson, bind, Option.bind_eq_some_iff, Option.some.injEq] at h
  obtain ⟨⟨room', ms⟩, hms, mediaType, -, digest, hdigest, size, -, platform, -, annotations, -,
    extra, -, rfl⟩ := h
  unfold Decode.required at hdigest
  rw [Decode.lookup_members hms, Option.bind_eq_some_iff] at hdigest
  obtain ⟨v, hv, hd⟩ := hdigest
  unfold Raw.digest?
  rw [hv]
  exact (digest_room room' v).symm.trans hd

theorem digests_array {ms : List (String × Value)} {k : String} {ds : List Descriptor}
    (h : ms.lookup k = some (.array (ds.map Descriptor.toJson))) :
    (Value.object ms).reading.digests k = ds.map fun d => some d.digest := by
  unfold Raw.digests
  rw [member?_reading, h]
  show (itemsReading (ds.map Descriptor.toJson)).map Raw.digest? = _
  rw [itemsReading_eq, List.map_map, List.map_map]
  exact List.map_congr_left fun d _ => d.digest?_reading

theorem digests_of_defaulted {room room' : Nat} {r : Raw} {known : List String}
    {ms : List (String × Raw)} {k : String} {ds : List Descriptor}
    (hms : Decode.members known room r = some (room', ms))
    (h : Decode.defaulted ms room' k (Decode.list Descriptor.ofJson) [] = some ds) :
    r.digests k = ds.map fun d => some d.digest := by
  unfold Decode.defaulted at h
  rw [Decode.lookup_members hms] at h
  unfold Raw.digests
  cases hk : r.member? k with
  | none =>
    rw [hk] at h
    cases h
    rfl
  | some v =>
    rw [hk] at h
    dsimp only at h
    unfold Decode.list at h
    split at h
    · exact listItems_map (fun _ _ => Descriptor.digest?_of_ofJson) h
    · cases h

theorem map_some_digest_inj {ds es : List Descriptor}
    (h : (ds.map fun d => some d.digest) = es.map fun d => some d.digest) :
    ds.map Descriptor.digest = es.map Descriptor.digest := by
  have hmap := congrArg (List.map fun o : Option Digest => o.getD (Digest.ofBytes [])) h
  rw [List.map_map, List.map_map] at hmap
  exact hmap

namespace ImageManifest

/-- The config and the layers that the tree of an image names. -/
structure Names (r : Raw) (i : ImageManifest) : Prop where
  config : (r.member? "config").bind Raw.digest? = some i.config.digest
  layers : r.digests "layers" = i.layers.map fun d => some d.digest

theorem names_reading (i : ImageManifest) : Names i.toJson.reading i where
  config := by
    unfold toJson
    rw [member?_reading]
    cases i.mediaType <;> exact i.config.digest?_reading
  layers := by
    unfold toJson
    refine digests_array ?_
    cases i.mediaType <;> rfl

theorem names_of_ofJson {room : Nat} {r : Raw} {i : ImageManifest}
    (h : ImageManifest.ofJson room r = some i) : Names r i := by
  simp only [ofJson, bind, Option.bind_eq_some_iff, Option.some.injEq] at h
  obtain ⟨⟨room', ms⟩, hms, schemaVersion, -, mediaType, -, config, hconfig, layers, hlayers,
    annotations, -, extra, -, rfl⟩ := h
  refine ⟨?_, digests_of_defaulted hms hlayers⟩
  unfold Decode.required at hconfig
  rw [Decode.lookup_members hms, Option.bind_eq_some_iff] at hconfig
  obtain ⟨v, hv, hd⟩ := hconfig
  rw [hv]
  exact Descriptor.digest?_of_ofJson hd

/-- The same config and layers, by digest. -/
def SameBlobs (i j : ImageManifest) : Prop :=
  i.config.digest = j.config.digest ∧ i.layers.map Descriptor.digest = j.layers.map Descriptor.digest

theorem Names.sameBlobs {r : Raw} {i j : ImageManifest} (hi : Names r i) (hj : Names r j) :
    SameBlobs i j :=
  ⟨Option.some.inj (hi.config.symm.trans hj.config),
    map_some_digest_inj (hi.layers.symm.trans hj.layers)⟩

/-- What is read from the bytes of an image has its config and its layers. -/
theorem sameBlobs_of_ofBytes? {i j : ImageManifest}
    (h : Decode.ofBytes? ImageManifest.ofJson i.bytes = some j) : SameBlobs i j := by
  unfold bytes at h
  rw [Decode.ofBytes?_bytes] at h
  exact i.names_reading.sameBlobs (names_of_ofJson h)

theorem sameBlobs_of_bytes {i j : ImageManifest} (h : i.bytes = j.bytes) : SameBlobs i j := by
  have hi := i.names_reading
  rw [reading_eq_of_bytes_eq h] at hi
  exact hi.sameBlobs j.names_reading

end ImageManifest

/-- Indexes with the same bytes have the same children, by digest. -/
theorem ImageIndex.digests_of_bytes {i j : ImageIndex} (h : i.bytes = j.bytes) :
    i.manifests.map Descriptor.digest = j.manifests.map Descriptor.digest := by
  have hnames : ∀ x : ImageIndex,
      x.toJson.reading.digests "manifests" = x.manifests.map fun d => some d.digest := by
    intro x
    unfold toJson
    refine digests_array ?_
    cases x.mediaType <;> rfl
  have hi := hnames i
  rw [reading_eq_of_bytes_eq h, hnames j] at hi
  exact (map_some_digest_inj hi).symm

/-- An image and an index differ in their second or third member. -/
theorem ImageManifest.bytes_ne_bytes (i : ImageManifest) (j : ImageIndex) : i.bytes ≠ j.bytes := by
  intro h
  have hr := reading_eq_of_bytes_eq h
  unfold ImageManifest.toJson ImageIndex.toJson at hr
  simp only [Value.reading, Raw.object.injEq] at hr
  have hkeys := congrArg (List.map Prod.fst) hr
  simp only [membersReading_eq, List.map_map] at hkeys
  cases hi : i.mediaType <;> cases hj : j.mediaType <;>
    simp [hi, hj, given] at hkeys

end OciCompose
