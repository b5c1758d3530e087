import OciCompose.Gzip
import OciCompose.Proofs.MultiPlatform

/-
  What an appended image is made of.
  `Extends` says how an image and its config go on from those of a base: the base's own layers, diff
  ids and history stay in front, and all that is added describes the blobs of the given layers.
  `extends_of_append`: what a successful append has stored is such an image, with its config under the
  digest that it names, and the result describes the stored bytes.
-/

namespace OciCompose

open MemoryRegistry

/-! ## The last blob of a push -/

/-- Calls end as the last of them does, or one of them fails. -/
theorem Call.sequence_ends_last {σ : Type} {P : σ → Prop} (cs : List (Call σ Unit)) {c : Call σ Unit}
    (hc : ∀ s, c.Ends s (fun _ s => P s) fun _ _ => True) (s : σ) :
    (Call.sequence (cs ++ [c])).Ends s (fun _ s => P s) fun _ _ => True := by
  induction cs generalizing s with
  | nil =>
    rw [List.nil_append]
    simp only [Call.sequence]
    exact (hc s).bind fun _ _ h => Call.Ends.pure h
  | cons d ds ih =>
    rw [List.cons_append]
    simp only [Call.sequence]
    refine Call.Ends.bind (Q := fun _ _ => True) ?_ fun _ s _ => ih s
    unfold Call.Ends
    split <;> trivial

theorem MemoryRegistry.putBlob_stores (repo : Reference) (d : Digest) (data : Bytes)
    (m : MemoryRegistry) :
    (registry.putBlob repo d data).Ends m (fun _ m' => m'.blob? repo d = some data)
      fun _ _ => True := by
  refine (putBlob_ends repo d data m).mono ?_ fun _ _ _ => trivial
  rintro _ _ ⟨rfl, -, -⟩
  exact blob?_setBlob m repo d data

/-- The last blob of a plan that was carried out is stored as it was given. -/
theorem PushPlan.push_ends_last (p : PushPlan) {before : List (Digest × Bytes)} {d : Digest}
    {data : Bytes} (hb : p.blobs = before ++ [(d, data)]) (w : Run MemoryRegistry) :
    (p.push registry).Ends w (fun _ m => m.blob? p.target d = some data) fun _ _ => True := by
  have hcalls : ∃ cs, p.blobCalls registry = cs ++ [registry.putBlob p.target d data] := by
    unfold blobCalls
    rw [hb, List.map_append, ← List.append_assoc]
    exact ⟨_, rfl⟩
  obtain ⟨cs, hcs⟩ := hcalls
  rw [ends_push_iff, calls, hcs]
  unfold Call.Ends
  rw [Call.sequence_append]
  refine (Call.sequence_ends_last cs (putBlob_stores p.target d data) w.registry).bind ?_
  intro _ m hm
  simp only [Call.sequence]
  refine Call.Ends.bind (Q := fun _ m => m.blob? p.target d = some data)
    ((putManifest_ends p.target p.manifest m).mono ?_ fun _ _ _ => trivial)
    fun _ _ h => Call.Ends.pure h
  rintro _ _ rfl
  exact hm

namespace Appender

/-! ## Images that go on from a base -/

/-- An image and its config go on from a base by some layers. -/
structure Extends (base : ResolvedBase) (added : List Layer) (image : ImageManifest)
    (config : ImageConfig) : Prop where
  layers : image.layers = base.manifest.layers ++ added.map fun l =>
    { mediaType := base.layerMediaType
      digest := Digest.ofBytes l.blob
      size := UInt64.ofNat l.blob.length }
  diffIds : config.rootfs.diffIds = base.config.rootfs.diffIds ++ added.map Layer.diffId
  history : config.history = base.config.history ++ added.map fun _ => historyEntry
  config : image.config =
    { mediaType := base.manifest.config.mediaType
      digest := Digest.ofBytes config.bytes
      size := UInt64.ofNat config.bytes.length }

theorem extends_imageOf (a : Appender) (base : ResolvedBase) (layers : List Layer) :
    Extends base layers (a.imageOf base layers) (a.configOf base layers) where
  layers := rfl
  diffIds := by
    unfold configOf
    dsimp only
    split <;> rfl
  history := by
    unfold configOf
    dsimp only
    split <;> rfl
  config := rfl

/-- The base of an appender is the one that it knows, or else the one that it reads. -/
def StartsFrom (a : Appender) (m : MemoryRegistry) (base : ResolvedBase) : Prop :=
  a.state = some base ∨ a.state = none ∧ a.Resolves m base

/-- A resolved base is an image, so its dialect is one of two. -/
theorem Resolves.dialect {a : Appender} {m : MemoryRegistry} {base : ResolvedBase}
    (h : a.Resolves m base) :
    base.raw.kind = .ociManifest ∧ base.layerMediaType = MediaType.ociLayer ∨
      base.raw.kind = .dockerManifest ∧ base.layerMediaType = MediaType.dockerLayer := by
  unfold Resolves at h
  split at h
  · subst h
    exact Or.inl ⟨rfl, rfl⟩
  · have himage := h.isImage
    unfold ResolvedBase.layerMediaType
    rw [← h.kind]
    cases hk : base.kind with
    | ociManifest => exact Or.inl ⟨rfl, rfl⟩
    | dockerManifest => exact Or.inr ⟨rfl, rfl⟩
    | ociIndex | dockerManifestList | other _ =>
      rw [hk] at himage
      cases himage

/-- A success composes onto the base, carries out the plan and stores the config as it is. -/
theorem run_starts_from (a : Appender) (layers : List Layer) (w : Run MemoryRegistry) :
    (a.run registry layers).Ends w
      (fun result m => ∃ base, a.StartsFrom w.registry base ∧ result = a.resultOf base layers ∧
        (a.plan base layers).Pushed w.registry m ∧
        m.blob? a.tag (Digest.ofBytes (a.configOf base layers).bytes) =
          some (a.configOf base layers).bytes)
      fun _ _ => True := by
  have hcompose : ∀ (b : Appender) base w, (b.compose registry base layers).Ends w
      (fun result m => result = b.resultOf base layers ∧ (b.plan base layers).Pushed w.registry m ∧
        m.blob? (b.target (b.rawOf base layers)) (Digest.ofBytes (b.configOf base layers).bytes) =
          some (b.configOf base layers).bytes)
      fun _ _ => True := by
    intro b base w
    refine b.compose_ends_of_push base layers
      ((((b.plan base layers).push_ends w).and
        ((b.plan base layers).push_ends_last (b.blobs_plan base layers) w)).mono
        (fun _ _ h => h) fun _ _ _ => trivial)
  have hblob : ∀ (m : MemoryRegistry) raw d, m.blob? (a.target raw) d = m.blob? a.tag d := by
    intro m raw d
    unfold blob?
    rw [context_target]
  cases hstate : a.state with
  | some base =>
    rw [run_of_state a registry layers hstate]
    refine (hcompose a base w).mono ?_ fun _ _ h => h
    rintro result m ⟨hresult, hpushed, hconfig⟩
    exact ⟨base, Or.inl hstate, hresult, hpushed, by rw [← hblob]; exact hconfig⟩
  | none =>
    rw [run_of_unresolved a registry layers hstate]
    refine Build.Ends.bind ((resolveBase_ends a hstate layers w).mono (fun _ _ h => h)
      fun _ _ _ => trivial) ?_
    rintro ⟨base, b⟩ w' ⟨hw', hresolves, hb⟩
    dsimp only at hb hresolves ⊢
    subst hb
    refine (hcompose { a with state := some base } base w').mono ?_ fun _ _ h => h
    rintro result m ⟨hresult, hpushed, hconfig⟩
    rw [hw'] at hpushed
    exact ⟨base, Or.inr ⟨hstate, hresolves⟩, hresult, hpushed, by rw [← hblob]; exact hconfig⟩

theorem run_of_append {a a' : Appender} {layers : List Layer} {w w' : Run MemoryRegistry}
    {r : Except Error AppendResult} (h : a.append registry layers w = (r, a', w')) :
    a.run registry layers w = (r, w') := by
  unfold run
  rw [h]

/-- What a successful append leaves in the registry goes on from the base by the given layers: the
    manifest that was pushed and is found under its digest, and the config under the digest that the
    manifest names. The result has the digest and the length of the stored manifest, and the added
    layers are those of the manifest behind the layers of the base. -/
theorem extends_of_append {a a' : Appender} {layers : List Layer} {w w' : Run MemoryRegistry}
    {result : AppendResult}
    (hread : ∀ base, a.state = some base → ∃ m, a.Resolves m base)
    (h : a.append registry layers w = (.ok result, a', w')) :
    ∃ (base : ResolvedBase) (image : ImageManifest) (config : ImageConfig) (raw : RawManifest),
      a.StartsFrom w.registry base ∧
      (base.raw.kind = .ociManifest ∧ base.layerMediaType = MediaType.ociLayer ∨
        base.raw.kind = .dockerManifest ∧ base.layerMediaType = MediaType.dockerLayer) ∧
      raw = ⟨base.mediaType, image.bytes⟩ ∧
      w'.registry.pushed = w.registry.pushed ++ [((a.target raw).toText, raw)] ∧
      w'.registry.manifest? (a.tag.withDigest raw.digest) = some raw ∧
      w'.registry.blob? a.tag image.config.digest = some config.bytes ∧
      Extends base layers image config ∧
      result = {
        hash := Digest.ofBytes raw.bytes
        descriptor := {
          mediaType := raw.mediaType
          digest := Digest.ofBytes raw.bytes
          size := UInt64.ofNat raw.bytes.length
          platform := config.platform? }
        addedLayers := (image.layers.drop base.manifest.layers.length).map fun d =>
          ⟨d.mediaType, d.size, d.digest, config.platform?⟩
        configDigest := image.config.digest } := by
  obtain ⟨base, hbase, hresult, hpushed, hconfig⟩ :=
    (run_starts_from a layers w).ok (run_of_append h)
  have hdialect : ∃ m, a.Resolves m base := by
    rcases hbase with hs | ⟨-, hr⟩
    · exact hread base hs
    · exact ⟨_, hr⟩
  obtain ⟨m, hdialect⟩ := hdialect
  obtain ⟨n, added, hpublished⟩ : ∃ n, BlobsAdded (a.plan base layers).target.context w.registry n ∧
      w'.registry = n.publish (a.target (a.rawOf base layers)) (a.rawOf base layers) := by
    generalize w'.registry = m' at hpushed
    cases hpushed with
    | intro added _ _ => exact ⟨_, added, rfl⟩
  refine ⟨base, a.imageOf base layers, a.configOf base layers, a.rawOf base layers, hbase,
    hdialect.dialect, rfl, ?_, ?_, hconfig, extends_imageOf a base layers, ?_⟩
  · rw [hpublished, pushed_publish, added.pushed]
  · have hfound := manifest?_publish n (a.target (a.rawOf base layers)) (a.rawOf base layers)
    rw [← hpublished] at hfound
    unfold manifest? at hfound ⊢
    rw [← hfound]
    exact congrArg (fun c => w'.registry.manifests.get? (c, _)) (context_target a _).symm
  · rw [hresult, layers_imageOf, List.drop_left, List.map_map]
    rfl

/-- An append goes through unless the plan of its base is blocked. -/
theorem append_of_not_blocked {a : Appender} (ha : a.state = none) {layers : List Layer}
    {base : ResolvedBase} {w : Run MemoryRegistry} (hbase : a.Resolves w.registry base)
    (hfree : ¬ (a.plan base layers).Blocked w.registry) :
    ∃ a' w', a.append registry layers w = (.ok (a.resultOf base layers), a', w') := by
  rcases h : a.append registry layers w with ⟨e | result, a', w'⟩
  · have hfails := ((run_ends a ha layers w).error (run_of_append h)).2.2
    exact (hfree (hfails.blocked base hbase)).elim
  · obtain ⟨b, hb, rfl, -⟩ := (run_ends a ha layers w).ok (run_of_append h)
    obtain rfl := hbase.unique hb
    exact ⟨a', w', rfl⟩

end Appender

/-! ## An image with two layers more -/

namespace TwoChildren

open Appender

/-- Layers of archives too short to be compressed. -/
def oneByte : Layer := Layer.ofTar [0x61] Gzip.stored
def twoBytes : Layer := Layer.ofTar [0x62, 0x63] Gzip.stored

theorem size_oneByte : UInt64.ofNat oneByte.blob.length = 24 := by
  rw [oneByte, Layer.ofTar, Gzip.length_stored (by decide)]
  rfl

theorem size_twoBytes : UInt64.ofNat twoBytes.blob.length = 25 := by
  rw [twoBytes, Layer.ofTar, Gzip.length_stored (by decide)]
  rfl

def appended : IndexAssembler.LayerAppend := { layers := [oneByte], envs := [], provenance := {} }

def appendedTwice : IndexAssembler.LayerAppend := { appended with layers := [oneByte, twoBytes] }

theorem append_first (each : IndexAssembler.LayerAppend) : ∃ r a w,
    (each.appender first result).append registry each.layers start = (.ok r, a, w) := by
  rcases h : (each.appender first result).append registry each.layers start with ⟨e | r, a, w⟩
  · exact (not_fails_first ((run_ends _ rfl _ start).error (run_of_append h)).2.2).elim
  · exact ⟨r, a, w, rfl⟩

/-- The image has the layer of its base and then the new ones, with the digests and the lengths of their
    blobs. -/
theorem extends_of_append_first :
    ∃ (r : AppendResult) (a : Appender) (w : Run MemoryRegistry) (image : ImageManifest)
      (config : ImageConfig),
    (appendedTwice.appender first result).append registry appendedTwice.layers start = (.ok r, a, w) ∧
    w.registry.pushed = [((result.withDigest r.hash).toText, ⟨MediaType.ociManifest, image.bytes⟩)] ∧
    image.layers = [{ mediaType := "l", digest := digit '4' rfl, size := 3 },
      { mediaType := MediaType.ociLayer, digest := Digest.ofBytes (Gzip.stored [0x61]), size := 24 },
      { mediaType := MediaType.ociLayer, digest := Digest.ofBytes (Gzip.stored [0x62, 0x63]),
        size := 25 }] ∧
    w.registry.blob? result image.config.digest = some config.bytes ∧
    config.rootfs.diffIds = [Digest.ofBytes [0x61], Digest.ofBytes [0x62, 0x63]] ∧
    r.addedLayers =
      [⟨MediaType.ociLayer, 24, Digest.ofBytes (Gzip.stored [0x61]), config.platform?⟩,
        ⟨MediaType.ociLayer, 25, Digest.ofBytes (Gzip.stored [0x62, 0x63]), config.platform?⟩] := by
  obtain ⟨r, a, w, happend⟩ := append_first appendedTwice
  obtain ⟨base, image, config, raw, hbase, -, hraw, hpushed, -, hconfig, hextends, hr⟩ :=
    extends_of_append (fun _ h => by cases h) happend
  obtain rfl : base = resolved := by
    rcases hbase with h | ⟨-, h⟩
    · cases h
    · exact Serves.unique h serves_first
  have htarget : (appendedTwice.appender first result).target raw =
      result.withDigest (Digest.ofBytes raw.bytes) := rfl
  have hhash : r.hash = Digest.ofBytes raw.bytes := congrArg AppendResult.hash hr
  have hlayers := hextends.layers
  simp only [appendedTwice, List.map_cons, List.map_nil, size_oneByte, size_twoBytes] at hlayers
  refine ⟨r, a, w, image, config, happend, ?_, hlayers, hconfig, hextends.diffIds, ?_⟩
  · rw [hpushed, htarget, hhash, hraw]
    rfl
  · rw [hr, hlayers]
    rfl

end TwoChildren

end OciCompose
