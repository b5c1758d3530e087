import OciCompose.Appender
import OciCompose.Proofs.Push

/-
  What an appender reads from a registry in memory and writes to it.
  On any registry, a fetch reads two texts (`fetch_of_reads`), and an appender ends up with no base or
  as its fetch does (`resolveBase_of_base`). In memory, a base that is read is `Serves`d by the
  registry, and the only error before a push is that of a manifest that is no image (`fetch_ends`);
  a success carries out the plan of the resolved base, a failure has added blobs at most (`run_ends`).
-/

namespace OciCompose

open MemoryRegistry

namespace MemoryRegistry

/-- A registry holds an image under a reference, with its manifest and config as they are read. -/
structure Serves (m : MemoryRegistry) (r : Reference) (b : ResolvedBase) : Prop where
  reference : b.reference = some r
  stored : m.manifest? r = some b.raw
  kind : b.kind = b.raw.kind
  isImage : b.kind.isImage = true
  manifest : Json.Decode.ofBytes? ImageManifest.ofJson b.raw.bytes = some b.manifest
  config : ∃ content, m.blob? r b.manifest.config.digest = some content ∧
    Json.Decode.ofBytes? ImageConfig.ofJson content = some b.config

/-- A registry serves one base under a reference. -/
theorem Serves.unique {m : MemoryRegistry} {r : Reference} {b b' : ResolvedBase}
    (h : m.Serves r b) (h' : m.Serves r b') : b = b' := by
  have hraw : b.raw = b'.raw := Option.some.inj (h.stored.symm.trans h'.stored)
  have hmanifest : b.manifest = b'.manifest := by
    have hm := h.manifest
    rw [hraw, h'.manifest] at hm
    exact (Option.some.inj hm).symm
  have hconfig : b.config = b'.config := by
    obtain ⟨content, hblob, hc⟩ := h.config
    obtain ⟨content', hblob', hc'⟩ := h'.config
    rw [hmanifest, hblob'] at hblob
    cases hblob
    exact Option.some.inj (hc.symm.trans hc')
  have hkind : b.kind = b'.kind := by rw [h.kind, h'.kind, hraw]
  have hreference : b.reference = b'.reference := h.reference.trans h'.reference.symm
  cases b
  cases b'
  cases hraw
  cases hmanifest
  cases hconfig
  cases hkind
  cases hreference
  rfl

/-- A base is served as before if only another repository was written to. -/
theorem Serves.of_confined {repo : String} {m m' : MemoryRegistry} {r : Reference}
    {b : ResolvedBase} (h : m.Serves r b) (hm : Confined repo m m') (hr : r.context ≠ repo) :
    m'.Serves r b where
  reference := h.reference
  stored := (hm.manifests _ _ hr).trans h.stored
  kind := h.kind
  isImage := h.isImage
  manifest := h.manifest
  config := by
    obtain ⟨content, hblob, hread⟩ := h.config
    exact ⟨content, (hm.blobs _ _ hr).trans hblob, hread⟩

/-- The error of a base that is stored as something else than an image. -/
def RefusesBase (m : MemoryRegistry) (r : Reference) (e : Error) : Prop :=
  ∃ raw, m.manifest? r = some raw ∧ raw.kind.isImage = false ∧
    e = .unsupportedMediaType raw.mediaType r.toText

/-- A base is what is stored, and that is an image. -/
theorem Serves.of_stored {m : MemoryRegistry} {r : Reference} {b : ResolvedBase}
    {raw : RawManifest} (h : m.Serves r b) (hraw : m.manifest? r = some raw) :
    raw.kind.isImage = true ∧ Json.Decode.ofBytes? ImageManifest.ofJson raw.bytes = some b.manifest := by
  obtain rfl := Option.some.inj (h.stored.symm.trans hraw)
  have himage := h.isImage
  rw [h.kind] at himage
  exact ⟨himage, h.manifest⟩

/-- An index is no base. -/
theorem Serves.not_isIndex {m : MemoryRegistry} {r : Reference} {b : ResolvedBase}
    {raw : RawManifest} (h : m.Serves r b) (hraw : m.manifest? r = some raw) :
    raw.kind.isIndex = false := by
  have himage := (h.of_stored hraw).1
  cases hk : raw.kind <;> rw [hk] at himage <;> first | rfl | cases himage

theorem RefusesBase.of_stored {m : MemoryRegistry} {r : Reference} {e : Error} {raw : RawManifest}
    (h : m.RefusesBase r e) (hraw : m.manifest? r = some raw) :
    raw.kind.isImage = false ∧ e = .unsupportedMediaType raw.mediaType r.toText := by
  obtain ⟨raw', hraw', hno, he⟩ := h
  obtain rfl := Option.some.inj (hraw'.symm.trans hraw)
  exact ⟨hno, he⟩

theorem Serves.not_refuses {m : MemoryRegistry} {r : Reference} {b : ResolvedBase} {e : Error}
    (h : m.Serves r b) : ¬ m.RefusesBase r e := by
  intro hr
  have hno := (hr.of_stored h.stored).1
  rw [(h.of_stored h.stored).1] at hno
  cases hno

/-- An error of a reference that no base is stored under. If it is found before a push, it is that of
    something else than an image. -/
structure Unserved (m : MemoryRegistry) (r : Reference) (e : Error) : Prop where
  not_serves : ∀ b, ¬ m.Serves r b
  refuses : e.isPrePush = true → m.RefusesBase r e
  eq_of_refuses : ∀ e', m.RefusesBase r e' → e = e'

namespace Unserved

variable {m : MemoryRegistry} {r : Reference} {raw : RawManifest} {e : Error}

theorem of_absent (h : m.manifest? r = none) (he : e.isPrePush = false) : m.Unserved r e where
  not_serves := by
    intro b hb
    rw [hb.stored] at h
    cases h
  refuses := by
    intro hp
    rw [he] at hp
    cases hp
  eq_of_refuses := by
    rintro e' ⟨raw, hraw, -⟩
    rw [hraw] at h
    cases h

theorem of_not_isImage (hraw : m.manifest? r = some raw) (hk : raw.kind.isImage = false) :
    m.Unserved r (.unsupportedMediaType raw.mediaType r.toText) where
  not_serves := by
    intro b hb
    rw [(hb.of_stored hraw).1] at hk
    cases hk
  refuses := fun _ => ⟨raw, hraw, hk, rfl⟩
  eq_of_refuses := fun _ hr => (hr.of_stored hraw).2.symm

/-- An image is not refused. -/
theorem of_isImage (hraw : m.manifest? r = some raw) (hk : raw.kind.isImage = true)
    (he : e.isPrePush = false) (hno : ∀ b, ¬ m.Serves r b) : m.Unserved r e where
  not_serves := hno
  refuses := by
    intro hp
    rw [he] at hp
    cases hp
  eq_of_refuses := by
    intro e' hr
    rw [(hr.of_stored hraw).1] at hk
    cases hk

end Unserved

/-- Reading a base changes nothing. It fails only if there is none. -/
theorem fetch_ends (r : Reference) (m : MemoryRegistry) :
    (ResolvedBase.fetch registry r).Ends m (fun b m' => m' = m ∧ m.Serves r b)
      fun e m' => m' = m ∧ m.Unserved r e := by
  unfold ResolvedBase.fetch
  refine Call.Ends.bind ((getManifest_ends r m).mono (fun _ _ h => h)
    fun _ _ h => ⟨h.1, .of_absent h.2.2 h.2.1⟩) ?_
  rintro raw n ⟨rfl, hraw⟩
  dsimp only
  split
  · next hk =>
    exact Call.Ends.bind (Q := fun _ _ => False)
      (Call.Ends.throw ⟨rfl, .of_not_isImage hraw (by simpa using hk)⟩) fun _ _ h => h.elim
  next hk =>
  have hk : raw.kind.isImage = true := by simpa using hk
  rcases hm : Json.Decode.ofBytes? ImageManifest.ofJson raw.bytes with _ | manifest
  · refine Call.Ends.throw ⟨rfl, .of_isImage hraw hk rfl fun b hb => ?_⟩
    rw [(hb.of_stored hraw).2] at hm
    cases hm
  have hmanifest : ∀ b, n.Serves r b → b.manifest = manifest := fun b hb =>
    Option.some.inj ((hb.of_stored hraw).2.symm.trans hm)
  refine Call.Ends.bind ((getBlob_ends r _ n).mono (fun _ _ h => h) ?_) ?_
  · rintro e n' ⟨hn, he, hnone⟩
    refine ⟨hn, .of_isImage hraw hk he fun b hb => ?_⟩
    obtain ⟨content, hblob, -⟩ := hb.config
    rw [hmanifest b hb, hnone] at hblob
    cases hblob
  rintro content n' ⟨rfl, hblob⟩
  rcases hc : Json.Decode.ofBytes? ImageConfig.ofJson content with _ | config
  · refine Call.Ends.throw ⟨rfl, .of_isImage hraw hk rfl fun b hb => ?_⟩
    obtain ⟨content', hblob', hconfig⟩ := hb.config
    rw [hmanifest b hb, hblob] at hblob'
    cases hblob'
    rw [hc] at hconfig
    cases hconfig
  · exact Call.Ends.pure ⟨rfl, rfl, hraw, rfl, hk, hm, content, hblob, hc⟩

end MemoryRegistry

namespace Appender

/-- The manifest of the result of appending to a base. -/
def imageOf (a : Appender) (base : ResolvedBase) (layers : List Layer) : ImageManifest :=
  a.manifestOf base layers (a.configOf base layers)

/-- The result as it is uploaded. -/
def rawOf (a : Appender) (base : ResolvedBase) (layers : List Layer) : RawManifest :=
  ⟨base.mediaType, (a.imageOf base layers).bytes⟩

/-- What is written for the result. -/
def plan (a : Appender) (base : ResolvedBase) (layers : List Layer) : PushPlan :=
  a.planOf base layers (a.configOf base layers) (a.rawOf base layers)

/-- What is reported of the result. -/
def resultOf (a : Appender) (base : ResolvedBase) (layers : List Layer) : AppendResult :=
  let raw := a.rawOf base layers
  let config := a.configOf base layers
  { hash := raw.digest
    descriptor :=
      { mediaType := raw.mediaType, digest := raw.digest, size := raw.size, platform := config.platform? }
    addedLayers := layers.map fun l => ⟨base.layerMediaType, l.size, l.digest, config.platform?⟩
    configDigest := Digest.ofBytes config.bytes }

/-- The platform of an image is that of its base. -/
theorem platform?_configOf (a : Appender) (base : ResolvedBase) (layers : List Layer) :
    (a.configOf base layers).platform? = base.config.platform? := by
  unfold configOf
  dsimp only
  split <;> rfl

theorem layers_imageOf (a : Appender) (base : ResolvedBase) (layers : List Layer) :
    (a.imageOf base layers).layers =
      base.manifest.layers ++ layers.map fun l => l.descriptor base.layerMediaType := rfl

theorem bytes_rawOf (a : Appender) (base : ResolvedBase) (layers : List Layer) :
    (a.rawOf base layers).bytes = (a.imageOf base layers).bytes := by
  unfold rawOf
  dsimp only

theorem manifest_plan (a : Appender) (base : ResolvedBase) (layers : List Layer) :
    (a.plan base layers).manifest = a.rawOf base layers := by
  unfold plan planOf
  dsimp only

theorem blobs_plan (a : Appender) (base : ResolvedBase) (layers : List Layer) :
    (a.plan base layers).blobs = layers.map (fun l => (l.digest, l.blob)) ++
      [(Digest.ofBytes (a.configOf base layers).bytes, (a.configOf base layers).bytes)] := by
  unfold plan planOf
  dsimp only

theorem baseRepository_plan {a : Appender} {base : ResolvedBase} {layers : List Layer}
    {r : Reference} :
    (a.plan base layers).baseRepository = some r ↔
      base.reference = some r ∧ r.sameRepository a.tag = false := by
  unfold plan planOf
  dsimp only
  rw [Option.filter_eq_some_iff]
  simp

theorem baseLayers_plan {a : Appender} {base : ResolvedBase} {layers : List Layer} {r : Reference}
    (h : (a.plan base layers).baseRepository = some r) :
    (a.plan base layers).baseLayers = base.manifest.layers.map fun d => (d.digest, d.size) := by
  unfold plan planOf at h ⊢
  dsimp only at h ⊢
  rw [h]

/-- If uploads are not refused and a base in another repository has its layers there, nothing is
    missing. -/
theorem not_blocked_of_elsewhere (a : Appender) {base : ResolvedBase} (layers : List Layer)
    {m : MemoryRegistry} (hblobs : m.blobFailure = none) (hmanifests : m.manifestFailure = none)
    (hbase : ∀ r, base.reference = some r → r.sameRepository a.tag = false →
      ∀ l ∈ base.manifest.layers, m.hasBlob r l.digest = true) :
    ¬ (a.plan base layers).Blocked m := by
  intro h
  cases h with
  | blobs h => exact h hblobs
  | manifests h => exact h hmanifests
  | wrongDigest hb h =>
    rw [blobs_plan] at hb
    rcases List.mem_append.1 hb with hb | hb
    · obtain ⟨l, -, rfl⟩ := List.mem_map.1 hb
      exact h rfl
    · rw [List.mem_singleton.1 hb] at h
      dsimp only at h
      exact h rfl
  | @missing source l hs hl ht h =>
    rw [baseLayers_plan hs] at hl
    obtain ⟨d, hd, rfl⟩ := List.mem_map.1 hl
    obtain ⟨hr, helsewhere⟩ := baseRepository_plan.1 hs
    rw [hbase source hr helsewhere d hd] at h
    cases h

/-- If uploads are not refused and a base has its layers where it is read, nothing is missing. -/
theorem not_blocked (a : Appender) {base : ResolvedBase} (layers : List Layer) {m : MemoryRegistry}
    (hblobs : m.blobFailure = none) (hmanifests : m.manifestFailure = none)
    (hbase : ∀ r, base.reference = some r →
      ∀ l ∈ base.manifest.layers, m.hasBlob r l.digest = true) :
    ¬ (a.plan base layers).Blocked m :=
  a.not_blocked_of_elsewhere layers hblobs hmanifests fun r hr _ => hbase r hr

theorem context_target (a : Appender) (raw : RawManifest) : (a.target raw).context = a.tag.context := by
  unfold target
  split <;> rfl

/-- The layers of a base are a prefix of those of the result, so the rest is what was appended. -/
theorem layersDelta_imageOf (a : Appender) (base : ResolvedBase) (layers : List Layer)
    (platform : Option Platform) :
    layersDelta base.manifest (a.imageOf base layers) platform =
      .ok (layers.map fun l => ⟨base.layerMediaType, l.size, l.digest, platform⟩) := by
  unfold layersDelta
  rw [layers_imageOf]
  have hp : (base.manifest.layers.map Descriptor.digest).isPrefixOf
      ((base.manifest.layers ++ layers.map fun l => l.descriptor base.layerMediaType).map
        Descriptor.digest) = true := by
    rw [List.map_append, List.isPrefixOf_iff_prefix]
    exact List.prefix_append _ _
  dsimp only
  rw [if_pos hp, List.drop_left, List.map_map]
  rfl

/-- Composing pushes its plan. It fails as that does, and its result is known beforehand. -/
theorem compose_apply {σ : Type} (a : Appender) (r : Registry σ) (base : ResolvedBase)
    (layers : List Layer) (w : Run σ) :
    a.compose r base layers w =
      match (a.plan base layers).push r w with
      | (.ok (), w') => (.ok (a.resultOf base layers),
          { w' with events := w'.events ++ [.pushed (a.target (a.rawOf base layers)).toText
            (a.rawOf base layers).digest.toText (a.rawOf base layers).mediaType] })
      | (.error e, w') => (.error e, w') := by
  have hc : a.compose r base layers = (do
      (a.plan base layers).push r
      Build.report (.pushed (a.target (a.rawOf base layers)).toText
        (a.rawOf base layers).digest.toText (a.rawOf base layers).mediaType)
      let addedLayers ← Build.ofExcept (layersDelta base.manifest (a.imageOf base layers)
        (a.configOf base layers).platform?)
      return { a.resultOf base layers with addedLayers }) := by
    unfold compose plan resultOf rawOf imageOf
    rfl
  rw [hc, layersDelta_imageOf, Call.bind_apply]
  rcases (a.plan base layers).push r w with ⟨_ | _, w'⟩ <;> rfl

theorem compose_ends_of_push {σ : Type} {r : Registry σ} (a : Appender) (base : ResolvedBase)
    (layers : List Layer) {w : Run σ} {P : σ → Prop} {F : Error → σ → Prop}
    (h : ((a.plan base layers).push r).Ends w (fun _ m' => P m') F) :
    (a.compose r base layers).Ends w
      (fun result m' => result = a.resultOf base layers ∧ P m') F := by
  unfold Build.Ends Call.Ends at h ⊢
  rw [compose_apply]
  rcases hp : (a.plan base layers).push r w with ⟨e | _, w'⟩ <;> rw [hp] at h
  · exact h
  · exact ⟨rfl, h⟩

theorem compose_ends (a : Appender) (base : ResolvedBase) (layers : List Layer)
    (w : Run MemoryRegistry) :
    (a.compose registry base layers).Ends w
      (fun result m' => result = a.resultOf base layers ∧ (a.plan base layers).Pushed w.registry m')
      fun e m' => BlobsAdded a.tag.context w.registry m' ∧ e.isPrePush = false ∧
        (a.plan base layers).Blocked w.registry := by
  have hctx : (a.plan base layers).target.context = a.tag.context := context_target a _
  refine compose_ends_of_push a base layers
    (((a.plan base layers).push_ends w).mono (fun _ _ h => h) ?_)
  intro e m' h
  obtain ⟨hm, he⟩ := h
  rw [hctx] at hm
  exact ⟨hm, he⟩

/-- What an appender starts from: an image of the registry, or the empty one. -/
def Resolves (a : Appender) (m : MemoryRegistry) (base : ResolvedBase) : Prop :=
  match a.base with
  | none => base = .empty
  | some r => m.Serves r base

theorem Resolves.unique {a : Appender} {m : MemoryRegistry} {b b' : ResolvedBase}
    (h : a.Resolves m b) (h' : a.Resolves m b') : b = b' := by
  unfold Resolves at h h'
  cases hb : a.base with
  | none =>
    rw [hb] at h h'
    exact h.trans h'.symm
  | some r =>
    rw [hb] at h h'
    exact Serves.unique h h'

/-- Why appending fails: its plan is blocked, unless there is no base to begin with. A base that is
    stored as no image is the one reason that arises before a push, and it always counts. -/
structure Fails (a : Appender) (layers : List Layer) (m : MemoryRegistry) (e : Error) : Prop where
  blocked : ∀ base, a.Resolves m base → (a.plan base layers).Blocked m
  prePush : e.isPrePush = true → ∃ r, a.base = some r ∧ m.RefusesBase r e
  refused : ∀ r e', a.base = some r → m.RefusesBase r e' → e = e'

/-- A push that is blocked fails after the base was read. -/
theorem Fails.of_blocked {a : Appender} {layers : List Layer} {m : MemoryRegistry} {e : Error}
    {base : ResolvedBase} (hr : a.Resolves m base) (hblocked : (a.plan base layers).Blocked m)
    (he : e.isPrePush = false) : a.Fails layers m e where
  blocked := fun _ hr' => hr.unique hr' ▸ hblocked
  prePush := fun hp => by
    rw [he] at hp
    cases hp
  refused := fun r e' hbase hrefuses => by
    unfold Resolves at hr
    rw [hbase] at hr
    exact (hr.not_refuses hrefuses).elim

/-- A fetch reads a manifest `R` and then the config that it names. `F` holds wherever it stops. -/
theorem fetch_of_reads {σ : Type} {r : Registry σ} {b : Reference} {s : σ}
    {R : RawManifest → σ → Prop} {P : ResolvedBase → σ → Prop} {F : σ → Prop}
    (hmanifest : (r.getManifest b).Ends s R fun _ => F) (hkept : ∀ raw s1, R raw s1 → F s1)
    (hconfig : ∀ raw manifest s1, R raw s1 →
      Json.Decode.ofBytes? ImageManifest.ofJson raw.bytes = some manifest →
      (r.getBlob b manifest.config.digest).Ends s1
        (fun content s2 => F s2 ∧ ∀ base : ResolvedBase, base.raw = raw → base.kind = raw.kind →
          base.manifest = manifest →
          Json.Decode.ofBytes? ImageConfig.ofJson content = some base.config → P base s2)
        fun _ => F) :
    (ResolvedBase.fetch r b).Ends s P fun _ => F := by
  unfold ResolvedBase.fetch
  refine Call.Ends.bind hmanifest ?_
  intro raw s1 hraw
  dsimp only
  split
  · exact Call.Ends.bind (Q := fun _ _ => False) (Call.Ends.throw (hkept raw s1 hraw))
      fun _ _ h => h.elim
  rcases hm : Json.Decode.ofBytes? ImageManifest.ofJson raw.bytes with _ | manifest
  · exact Call.Ends.throw (hkept raw s1 hraw)
  refine Call.Ends.bind (hconfig raw manifest s1 hraw hm) ?_
  rintro content s2 ⟨hs, hbase⟩
  rcases hc : Json.Decode.ofBytes? ImageConfig.ofJson content with _ | config
  · exact Call.Ends.throw hs
  · exact Call.Ends.pure (hbase _ rfl rfl rfl hc)

/-- How an appender reads its base. -/
def readBase {σ : Type} (a : Appender) (r : Registry σ) : Call σ ResolvedBase :=
  match a.base with
  | none => pure .empty
  | some b => ResolvedBase.fetch r b

/-- What is reported of a base that was read. -/
def resolution (a : Appender) (base : ResolvedBase) : Event :=
  .baseResolved (match a.base with | none => "(empty)" | some b => b.toText) base.mediaType
    base.layerMediaType

/-- A base that is known is not read again, whatever the registry. -/
theorem resolveBase_known {σ : Type} {a : Appender} {base : ResolvedBase}
    (ha : a.state = some base) (r : Registry σ) (w : Run σ) :
    a.resolveBase r w = (.error (.contract .resolvedTwice), w) := by
  unfold resolveBase
  rw [ha]
  rfl

/-- A base that is not known is read; it is known afterwards, unless reading fails. -/
theorem resolveBase_unknown {σ : Type} {a : Appender} (ha : a.state = none) (r : Registry σ)
    (w : Run σ) :
    a.resolveBase r w =
      match a.readBase r w.registry with
      | (.ok base, s) => (.ok (base, { a with state := some base }),
          { w with registry := s, events := w.events ++ [a.resolution base] })
      | (.error e, s) => (.error e, { w with registry := s }) := by
  unfold resolveBase readBase resolution
  rw [ha, Option.isSome_none, if_neg Bool.false_ne_true]
  rcases a.base with _ | b
  · rfl
  · dsimp only
    rw [Call.bind_apply]
    unfold Build.call
    rcases ResolvedBase.fetch r b w.registry with ⟨_ | _, s⟩ <;> rfl

/-- An appender ends up with the empty image if it has no base, and else as reading its base does. -/
theorem resolveBase_of_base {σ : Type} {r : Registry σ} (a : Appender) {w : Run σ}
    {P : ResolvedBase → σ → Prop} {F : Error → σ → Prop}
    (htwice : a.state.isSome = true → F (.contract .resolvedTwice) w.registry)
    (hempty : a.base = none → P .empty w.registry)
    (hfetch : ∀ b, a.base = some b → (ResolvedBase.fetch r b).Ends w.registry P F) :
    (a.resolveBase r).Ends w (fun b s => P b.1 s ∧ b.2 = { a with state := some b.1 }) F := by
  rcases hstate : a.state with _ | known
  · have hread : (a.readBase r).Ends w.registry P F := by
      unfold readBase
      rcases hbase : a.base with _ | b
      · exact Call.Ends.pure (hempty hbase)
      · exact hfetch b hbase
    unfold Build.Ends Call.Ends at *
    rw [resolveBase_unknown hstate]
    rcases hr : a.readBase r w.registry with ⟨e | base, s⟩ <;> rw [hr] at hread
    · exact hread
    · exact ⟨hread, rfl⟩
  · unfold Build.Ends
    rw [Call.Ends.of_eq_error (resolveBase_known hstate r w)]
    exact htwice (by rw [hstate]; rfl)

/-- Reading the base changes nothing. -/
theorem resolveBase_ends (a : Appender) (ha : a.state = none) (layers : List Layer)
    (w : Run MemoryRegistry) :
    (a.resolveBase registry).Ends w
      (fun b m' => m' = w.registry ∧ a.Resolves w.registry b.1 ∧ b.2 = { a with state := some b.1 })
      fun e m' => m' = w.registry ∧ a.Fails layers w.registry e := by
  refine (a.resolveBase_of_base (P := fun base m' => m' = w.registry ∧ a.Resolves w.registry base)
    (F := fun e m' => m' = w.registry ∧ a.Fails layers w.registry e) (by simp [ha]) ?_ ?_).mono
    (fun _ _ h => ⟨h.1.1, h.1.2, h.2⟩) fun _ _ h => h
  · intro hb
    unfold Resolves
    rw [hb]
    exact ⟨rfl, rfl⟩
  · intro r hb
    unfold Resolves
    rw [hb]
    refine (fetch_ends r w.registry).mono (fun _ _ h => h) ?_
    intro e m' h
    obtain ⟨hm, hno, hpre, hrefused⟩ := h
    refine ⟨hm, fun base hbase => ?_, fun hp => ⟨r, hb, hpre hp⟩, fun r' e' hr' => ?_⟩
    · unfold Resolves at hbase
      rw [hb] at hbase
      exact (hno base hbase).elim
    · rw [hb] at hr'
      cases hr'
      exact hrefused e'

/-- Appending as a build, which forgets the appender. -/
def run {σ : Type} (a : Appender) (r : Registry σ) (layers : List Layer) : Build σ AppendResult :=
  fun w =>
    let (result, _, w) := a.append r layers w
    (result, w)

/-- An appender that knows its base composes onto it. -/
theorem run_of_state {σ : Type} (a : Appender) (r : Registry σ) (layers : List Layer)
    {base : ResolvedBase} (ha : a.state = some base) : a.run r layers = a.compose r base layers := by
  funext w
  unfold run append
  rw [ha]
  rfl

/-- An appender that does not know its base reads it first. -/
theorem run_of_unresolved {σ : Type} (a : Appender) (r : Registry σ) (layers : List Layer)
    (ha : a.state = none) :
    a.run r layers = (do
      let (base, a) ← a.resolveBase r
      a.compose r base layers) := by
  funext w
  rw [Call.bind_apply]
  unfold run append
  rw [ha]
  dsimp only
  rcases a.resolveBase r w with ⟨_ | ⟨base, a'⟩, w'⟩ <;> rfl

/-- A success carries out the plan of the base. A failure has added blobs at most, and nothing if it
    is one that arises before a push. -/
theorem run_ends (a : Appender) (ha : a.state = none) (layers : List Layer)
    (w : Run MemoryRegistry) :
    (a.run registry layers).Ends w
      (fun result m' => ∃ base, a.Resolves w.registry base ∧ result = a.resultOf base layers ∧
        (a.plan base layers).Pushed w.registry m')
      fun e m' => BlobsAdded a.tag.context w.registry m' ∧ (e.isPrePush = true → m' = w.registry) ∧
        a.Fails layers w.registry e := by
  rw [run_of_unresolved a registry layers ha]
  refine Build.Ends.bind ((resolveBase_ends a ha layers w).mono (fun _ _ h => h) ?_) ?_
  · intro e m' h
    obtain ⟨rfl, hfails⟩ := h
    exact ⟨BlobsAdded.refl _ _, fun _ => rfl, hfails⟩
  intro resolved w' h
  obtain ⟨base, a'⟩ := resolved
  obtain ⟨hw', hr, ha'⟩ := h
  dsimp only at hr ha' ⊢
  subst ha'
  refine (compose_ends _ base layers w').mono ?_ ?_
  · intro result m' h
    obtain ⟨hres, hp⟩ := h
    rw [hw'] at hp
    exact ⟨base, hr, hres, hp⟩
  · intro e m' h
    obtain ⟨hm, he, hblocked⟩ := h
    rw [hw'] at hm hblocked
    refine ⟨hm, fun hp => ?_, .of_blocked hr hblocked he⟩
    rw [he] at hp
    cases hp

/-- Nothing is appended to a base whose plan is blocked. -/
theorem run_fails_of_blocked (a : Appender) (ha : a.state = none) (layers : List Layer)
    {base : ResolvedBase} {w : Run MemoryRegistry} (hbase : a.Resolves w.registry base)
    (hblocked : (a.plan base layers).Blocked w.registry) :
    (a.run registry layers).Ends w (fun _ _ => False) fun _ _ => True := by
  rw [run_of_unresolved a registry layers ha]
  refine Build.Ends.bind ((resolveBase_ends a ha layers w).mono (fun _ _ h => h)
    fun _ _ _ => trivial) ?_
  intro resolved w' h
  obtain ⟨b, a'⟩ := resolved
  obtain ⟨hw', hb, ha'⟩ := h
  dsimp only at hb ha' ⊢
  obtain rfl := hbase.unique hb
  subst ha'
  have hblobs : (a.plan base layers).blobs ≠ [] := by
    rw [blobs_plan]
    exact List.append_ne_nil_of_right_ne_nil _ (List.cons_ne_nil _ _)
  rw [← hw'] at hblocked
  exact (compose_ends_of_push _ base layers (hblocked.push_fails hblobs)).mono
    (fun _ _ h => h.2) fun _ _ h => h

end Appender

end OciCompose
