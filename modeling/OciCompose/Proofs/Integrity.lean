import OciCompose.Proofs.Build
import OciCompose.Proofs.Manifest
import OciCompose.Proofs.Reference

/-
  What is published refers to nothing that is missing.
  A plan makes its blobs available before it writes its manifest, but for the layers of a base in the
  same repository, which have to be there. A manifest written for one child may take the place of the
  base of a later one; it is read as what was written (`sameBlobs_of_ofBytes?`), so its layers are there
  too. `complete_of_append` follows this through a build, whether it succeeds or fails.
-/

namespace OciCompose

open MemoryRegistry IndexAssembler Json

namespace MemoryRegistry

/-! ## Manifests and what they refer to -/

/-- The config and the layers of an image are blobs of a repository. -/
def HoldsImage (m : MemoryRegistry) (repo : Reference) (i : ImageManifest) : Prop :=
  m.hasBlob repo i.config.digest = true ∧ ∀ l ∈ i.layers, m.hasBlob repo l.digest = true

/-- The children of an index are manifests of a repository. -/
def HoldsIndex (m : MemoryRegistry) (repo : Reference) (i : ImageIndex) : Prop :=
  ∀ d ∈ i.manifests, (m.manifest? (repo.withDigest d.digest)).isSome = true

/-- The bytes of a manifest are those of an image or an index, and whatever image or index they are the
    bytes of, all it refers to is in a repository. -/
structure Complete (m : MemoryRegistry) (repo : Reference) (raw : RawManifest) : Prop where
  kind : (∃ i : ImageManifest, raw.bytes = i.bytes) ∨ ∃ i : ImageIndex, raw.bytes = i.bytes
  image : ∀ i : ImageManifest, raw.bytes = i.bytes → m.HoldsImage repo i
  index : ∀ i : ImageIndex, raw.bytes = i.bytes → m.HoldsIndex repo i

/-- The layers of an image stored under a reference are blobs of its repository. -/
def HoldsLayers (m : MemoryRegistry) (r : Reference) : Prop :=
  ∀ raw i, m.manifest? r = some raw → raw.kind.isImage = true →
    Decode.ofBytes? ImageManifest.ofJson raw.bytes = some i →
    ∀ l ∈ i.layers, m.hasBlob r l.digest = true

theorem HoldsLayers.of_serves {m : MemoryRegistry} {r : Reference} {b : ResolvedBase}
    (h : m.HoldsLayers r) (hs : m.Serves r b) :
    ∀ l ∈ b.manifest.layers, m.hasBlob r l.digest = true :=
  h b.raw b.manifest hs.stored (hs.of_stored hs.stored).1 hs.manifest

theorem hasBlob_congr (m : MemoryRegistry) {r s : Reference} (h : r.context = s.context) (d : Digest) :
    m.hasBlob r d = m.hasBlob s d := by
  unfold hasBlob
  rw [m.blob?_congr h]

theorem HoldsImage.of_sameBlobs {m : MemoryRegistry} {repo : Reference} {i j : ImageManifest}
    (h : m.HoldsImage repo i) (hs : ImageManifest.SameBlobs i j) : m.HoldsImage repo j := by
  obtain ⟨hconfig, hlayers⟩ := h
  refine ⟨hs.1 ▸ hconfig, fun l hl => ?_⟩
  have hmem : l.digest ∈ i.layers.map Descriptor.digest := by
    rw [hs.2]
    exact List.mem_map_of_mem hl
  obtain ⟨l', hl', hd⟩ := List.mem_map.1 hmem
  rw [← hd]
  exact hlayers l' hl'

theorem HoldsIndex.of_digests {m : MemoryRegistry} {repo : Reference} {i j : ImageIndex}
    (h : m.HoldsIndex repo i)
    (hs : i.manifests.map Descriptor.digest = j.manifests.map Descriptor.digest) :
    m.HoldsIndex repo j := by
  intro d hd
  have hmem : d.digest ∈ i.manifests.map Descriptor.digest := by
    rw [hs]
    exact List.mem_map_of_mem hd
  obtain ⟨d', hd', heq⟩ := List.mem_map.1 hmem
  rw [← heq]
  exact h d' hd'

theorem Complete.of_image {m : MemoryRegistry} {repo : Reference} {raw : RawManifest}
    {i : ImageManifest} (hraw : raw.bytes = i.bytes) (h : m.HoldsImage repo i) :
    m.Complete repo raw where
  kind := Or.inl ⟨i, hraw⟩
  image := fun _ hj => h.of_sameBlobs (ImageManifest.sameBlobs_of_bytes (hraw.symm.trans hj))
  index := fun _ hj => (ImageManifest.bytes_ne_bytes _ _ (hraw.symm.trans hj)).elim

theorem Complete.of_index {m : MemoryRegistry} {repo : Reference} {raw : RawManifest}
    {i : ImageIndex} (hraw : raw.bytes = i.bytes) (h : m.HoldsIndex repo i) :
    m.Complete repo raw where
  kind := Or.inr ⟨i, hraw⟩
  image := fun _ hj => (ImageManifest.bytes_ne_bytes _ _ (hj.symm.trans hraw)).elim
  index := fun _ hj => h.of_digests (ImageIndex.digests_of_bytes (hraw.symm.trans hj))

section Kept

variable {m m' : MemoryRegistry} {r : Reference}

theorem HoldsImage.kept {i : ImageManifest} (h : m.HoldsImage r i) (hk : Keeps m m') :
    m'.HoldsImage r i :=
  ⟨hk.keptBlobs _ _ h.1, fun l hl => hk.keptBlobs _ _ (h.2 l hl)⟩

theorem HoldsIndex.kept {i : ImageIndex} (h : m.HoldsIndex r i) (hk : Keeps m m') :
    m'.HoldsIndex r i :=
  fun d hd => hk.keptManifests _ (h d hd)

theorem Complete.kept {raw : RawManifest} (h : m.Complete r raw) (hk : Keeps m m') :
    m'.Complete r raw where
  kind := h.kind
  image := fun i hi => (h.image i hi).kept hk
  index := fun i hi => (h.index i hi).kept hk

end Kept

end MemoryRegistry

/-! ## One image -/

/-- What an appender writes is complete if the layers of a base in its repository are there. -/
theorem Appender.holdsImage_of_pushed {a : Appender} {base : ResolvedBase} {layers : List Layer}
    {m m' : MemoryRegistry} (h : (a.plan base layers).Pushed m m')
    (hempty : base.reference = none → base.manifest.layers = [])
    (hsame : ∀ r, base.reference = some r → r.sameRepository a.tag = true →
      ∀ l ∈ base.manifest.layers, m.hasBlob a.tag l.digest = true) :
    m'.HoldsImage a.tag (a.imageOf base layers) := by
  have hctx : (a.plan base layers).target.context = a.tag.context := context_target a _
  cases h with
  | @intro n added hbase hblobs =>
    have hhas : ∀ d, n.hasBlob (a.plan base layers).target d = true →
        (n.publish (a.plan base layers).target (a.plan base layers).manifest).hasBlob a.tag d =
          true := by
      intro d hd
      rw [← hasBlob_congr _ hctx]
      exact hd
    rw [blobs_plan] at hblobs
    refine ⟨hhas _ (hblobs _ (List.mem_append_right _ List.mem_cons_self)), fun l hl => ?_⟩
    rw [layers_imageOf, List.mem_append] at hl
    rcases hl with hl | hl
    · -- a layer of the base
      cases hr : base.reference with
      | none =>
        rw [hempty hr] at hl
        cases hl
      | some r =>
        cases hrepo : r.sameRepository a.tag with
        | true =>
          refine hhas _ (added.kept _ _ ?_)
          rw [hasBlob_congr m hctx]
          exact hsame r hr hrepo l hl
        | false =>
          have hfrom : (a.plan base layers).baseRepository = some r :=
            baseRepository_plan.2 ⟨hr, hrepo⟩
          refine hhas _ (hbase r hfrom (l.digest, l.size) ?_)
          rw [baseLayers_plan hfrom]
          exact List.mem_map_of_mem hl
    · -- an appended layer
      obtain ⟨x, hx, rfl⟩ := List.mem_map.1 hl
      refine hhas _ (hblobs (x.digest, x.blob) (List.mem_append_left _ ?_))
      exact List.mem_map_of_mem hx

/-- The same if the base was read from a reference whose layers are there. -/
theorem Appender.holdsImage_of_serves {a : Appender} {r : Reference} {base : ResolvedBase}
    {layers : List Layer} {m m' : MemoryRegistry} (hs : m.Serves r base)
    (h : (a.plan base layers).Pushed m m')
    (hr : r.sameRepository a.tag = true → m.HoldsLayers r) :
    m'.HoldsImage a.tag (a.imageOf base layers) := by
  refine holdsImage_of_pushed h (fun hnone => ?_) fun r' hr' hrepo l hl => ?_
  · rw [hs.reference] at hnone
    cases hnone
  · rw [hs.reference] at hr'
    cases hr'
    rw [← hasBlob_congr _ (Reference.context_of_sameRepository hrepo)]
    exact (hr hrepo).of_serves hs l hl

/-! ## The images of an index -/

namespace IndexAssembler

variable {each : LayerAppend} {tag : Reference}

/-- The layers of a base stay there, also if its manifest is written anew. -/
theorem holdsLayers_of_pushed {m m' : MemoryRegistry} {child : SelectedChild} {base : ResolvedBase}
    {r : Reference} (h : ((each.appender child tag).plan base each.layers).Pushed m m')
    (himage : m'.HoldsImage tag ((each.appender child tag).imageOf base each.layers))
    (hr : r.sameRepository tag = true) (hm : m.HoldsLayers r) : m'.HoldsLayers r := by
  intro raw i hraw hkind hdec l hl
  cases h with
  | @intro n added _ _ =>
    unfold manifest? at hraw
    rw [manifests_publish] at hraw
    split at hraw
    · -- what is read is what was written
      have hraw := Option.some.inj hraw
      rw [← hraw, Appender.manifest_plan, Appender.bytes_rawOf] at hdec
      have hsame := ImageManifest.sameBlobs_of_ofBytes? hdec
      rw [hasBlob_congr _ (Reference.context_of_sameRepository hr)]
      exact (himage.of_sameBlobs hsame).2 l hl
    · rw [added.manifests] at hraw
      exact added.kept _ _ (hm raw i hraw hkind hdec l hl)

theorem Composed.complete {m m' : MemoryRegistry} {children : List SelectedChild}
    {bases : List ResolvedBase} (h : Composed each tag m children bases m')
    (hbases : ∀ child ∈ children, child.base.sameRepository tag = true →
      m.HoldsLayers child.base) :
    ∀ image ∈ List.zipWith (each.imageFor tag) children bases,
      m'.Complete tag image ∧ (m'.manifest? (tag.withDigest image.digest)).isSome = true := by
  induction h with
  | nil => exact fun _ h => nomatch h
  | @cons m n m' child base children bases serves pushed rest ih =>
    have himage : n.HoldsImage tag ((each.appender child tag).imageOf base each.layers) :=
      Appender.holdsImage_of_serves (a := each.appender child tag) serves pushed
        (hbases child List.mem_cons_self)
    intro image hmem
    rw [List.zipWith_cons_cons] at hmem
    rcases List.mem_cons.1 hmem with rfl | hmem
    · refine ⟨(Complete.of_image (bytes_imageFor child base) himage).kept rest.extended.toKeeps,
        rest.extended.keptManifests _ ?_⟩
      cases pushed with
      | @intro k added _ _ =>
        exact Option.isSome_iff_exists.2 ⟨_, manifest?_publish k
          (tag.withDigest (each.imageFor tag child base).digest) (each.imageFor tag child base)⟩
    · exact ih (fun c hc hrepo => holdsLayers_of_pushed pushed himage hrepo
        (hbases c (List.mem_cons_of_mem _ hc) hrepo)) image hmem

theorem digests_indexOf (a : IndexAssembler) (bases : List ResolvedBase) :
    (a.indexOf each tag bases).manifests.map Descriptor.digest =
      a.canvas.manifests.map Descriptor.digest ++
        (List.zipWith (each.imageFor tag) a.children bases).map RawManifest.digest := by
  unfold indexOf
  dsimp only
  rw [List.map_append, List.map_map, List.map_zipWith, List.map_zipWith]
  rfl

/-- An index of no other children than the composed ones is complete. -/
theorem holdsIndex_indexOf {a : IndexAssembler} {bases : List ResolvedBase} {m : MemoryRegistry}
    (hcanvas : a.canvas.manifests = [])
    (h : ∀ image ∈ List.zipWith (each.imageFor tag) a.children bases,
      (m.manifest? (tag.withDigest image.digest)).isSome = true) :
    m.HoldsIndex tag (a.indexOf each tag bases) := by
  intro d hd
  have hmem := List.mem_map_of_mem (f := Descriptor.digest) hd
  rw [digests_indexOf, hcanvas, List.map_nil, List.nil_append] at hmem
  obtain ⟨image, himage, heq⟩ := List.mem_map.1 hmem
  rw [← heq]
  exact h image himage

end IndexAssembler

/-! ## Builds -/

namespace Build

/-- The references of the images that a build starts from: the configured base, and the eligible
    children of the index that it may be. -/
inductive BaseImage (c : BuildConfig) (m : MemoryRegistry) : Reference → Prop
  | configured {r : Reference} (parsedBase : Reference.parse c.base = .ok r) : BaseImage c m r
  | child {base : Reference} {raw : RawManifest} {index : ImageIndex} {matcher : PlatformMatcher}
      {d : Descriptor} (parsedBase : Reference.parse c.base = .ok base)
      (stored : m.manifest? base = some raw)
      (decoded : Decode.ofBytes? ImageIndex.ofJson raw.bytes = some index)
      (platforms : PlatformMatcher.ofTexts c.platforms = .ok matcher)
      (eligible : d ∈ index.eligible matcher) : BaseImage c m (base.withDigest d.digest)

/-- The layers of the base images in the repository of the result are there. -/
def BasesComplete (c : BuildConfig) (m : MemoryRegistry) : Prop :=
  ∀ tag r, Reference.parse c.tag = .ok tag → BaseImage c m r → r.sameRepository tag = true →
    m.HoldsLayers r

/-- What was written from one state of a registry to another is complete in the latter. -/
def WritesComplete (c : BuildConfig) (m m' : MemoryRegistry) : Prop :=
  ∃ written, m'.pushed = m.pushed ++ written ∧
    ∀ e ∈ written, ∃ tag, Reference.parse c.tag = .ok tag ∧ m'.Complete tag e.2

variable {c : BuildConfig} {w : Run MemoryRegistry}

theorem WritesComplete.refl (c : BuildConfig) (m : MemoryRegistry) : WritesComplete c m m :=
  ⟨[], (List.append_nil _).symm, fun _ h => nomatch h⟩

theorem WritesComplete.added {repo : String} {m n m' : MemoryRegistry} (h : WritesComplete c m n)
    (ha : BlobsAdded repo n m') : WritesComplete c m m' := by
  obtain ⟨written, hlog, hall⟩ := h
  refine ⟨written, ha.pushed.trans hlog, fun e he => ?_⟩
  obtain ⟨tag, htag, hc⟩ := hall e he
  exact ⟨tag, htag, hc.kept ha.extended.toKeeps⟩

/-- The children of a selection are base images, and no entry of the index is left over. -/
theorem Composes.children {tag base : Reference} {raw : RawManifest} {matcher : PlatformMatcher}
    {a : IndexAssembler} (h : Composes c w tag base raw matcher a) :
    a.canvas.manifests = [] ∧ ∀ child ∈ a.children, BaseImage c w.registry child.base := by
  obtain ⟨w1, hs⟩ := Call.eq_of_fst h.selected
  obtain ⟨-, hselected⟩ := (select_ends base raw matcher w).ok hs
  obtain ⟨index, hdec, rfl⟩ := hselected.assembled
  refine ⟨rfl, fun child hchild => ?_⟩
  obtain ⟨entry, hentry, rfl⟩ := List.mem_map.1 hchild
  refine .child h.parsedBase h.stored hdec h.platforms ?_
  rw [← eligible_eq]
  exact List.mem_map_of_mem hentry

theorem writesComplete_of_composed {tag base : Reference} {raw : RawManifest}
    {matcher : PlatformMatcher} {a : IndexAssembler} {each : LayerAppend}
    {children after : List SelectedChild} {bases : List ResolvedBase} {m' : MemoryRegistry}
    (hc : Composes c w tag base raw matcher a) (hb : BasesComplete c w.registry)
    (hchildren : a.children = children ++ after)
    (h : Composed each tag w.registry children bases m') :
    WritesComplete c w.registry m' ∧
      ∀ image ∈ List.zipWith (each.imageFor tag) children bases,
        (m'.manifest? (tag.withDigest image.digest)).isSome = true := by
  have hall := h.complete fun child hchild hrepo =>
    hb tag child.base hc.parsedTag (hc.children.2 child
      (hchildren ▸ List.mem_append_left _ hchild)) hrepo
  refine ⟨⟨_, h.pushed_eq, fun e he => ?_⟩, fun image hi => (hall image hi).2⟩
  obtain ⟨image, himage, rfl⟩ := List.mem_map.1 he
  exact ⟨tag, hc.parsedTag, (hall image himage).1⟩

/-- The base of a single image is none, or the configured one. -/
theorem holdsImage_of_single {tag : Reference} {base? : Option Reference} {base : ResolvedBase}
    {layers : List Layer} {m' : MemoryRegistry} (hb : BasesComplete c w.registry)
    (htag : Reference.parse c.tag = .ok tag) (hnamed : Base? c base?)
    (hresolves : (c.appender tag base?).Resolves w.registry base)
    (hpushed : ((c.appender tag base?).plan base layers).Pushed w.registry m') :
    m'.HoldsImage tag ((c.appender tag base?).imageOf base layers) := by
  cases base? with
  | none =>
    have hempty : base = .empty := hresolves
    refine Appender.holdsImage_of_pushed (a := c.appender tag none) hpushed
      (fun _ => by rw [hempty]; rfl) ?_
    intro r hr
    rw [hempty] at hr
    cases hr
  | some r =>
    exact Appender.holdsImage_of_serves (a := c.appender tag (some r)) hresolves hpushed
      (hb tag r htag (.configured hnamed))

theorem Published.writesComplete {layers : List Layer} {artifact : Artifact} {m' : MemoryRegistry}
    (hb : BasesComplete c w.registry) (h : Published c layers w artifact m') :
    WritesComplete c w.registry m' := by
  cases h with
  | image parsedTag named resolves pushed hash =>
    have himage := holdsImage_of_single hb parsedTag named resolves pushed
    cases pushed with
    | intro added _ _ =>
      refine ⟨_, by rw [pushed_publish, added.pushed], fun e he => ?_⟩
      rw [List.mem_singleton.1 he]
      exact ⟨_, parsedTag, Complete.of_image (Appender.bytes_rawOf _ _ layers) himage⟩
  | @index tag base raw matcher a bases _ n composes composed hash =>
    obtain ⟨⟨written, hlog, hall⟩, hsome⟩ :=
      writesComplete_of_composed composes hb (List.append_nil _).symm composed
    have hindex := holdsIndex_indexOf composes.children.1 hsome
    have hkeeps := Keeps.publish n tag (a.indexOf (c.each layers base) tag bases).snapshot
    refine ⟨written ++ [_], by rw [pushed_publish, hlog, List.append_assoc], fun e he => ?_⟩
    rcases List.mem_append.1 he with he | he
    · obtain ⟨tag', htag', hcomplete⟩ := hall e he
      exact ⟨tag', htag', hcomplete.kept hkeeps⟩
    · rw [List.mem_singleton.1 he]
      exact ⟨tag, composes.parsedTag,
        Complete.of_index (ImageIndex.bytes_snapshot _) (hindex.kept hkeeps)⟩

theorem Failed.writesComplete {layers : List Layer} {e : Error} {m' : MemoryRegistry}
    (hb : BasesComplete c w.registry) (h : Failed c layers w e m') :
    WritesComplete c w.registry m' := by
  cases h with
  | before _ added _ =>
    rcases added with rfl | ⟨tag, -, added⟩
    · exact WritesComplete.refl c _
    · exact (WritesComplete.refl c _).added added
  | child composes stopped =>
    obtain ⟨split, composed, added, _, _⟩ := stopped
    exact (writesComplete_of_composed composes hb split composed).1.added added
  | index composes composed _ =>
    exact (writesComplete_of_composed composes hb (List.append_nil _).symm composed).1

/-- Whether a build succeeds or fails, the images that it has written have their config and their
    layers in the repository of the result, and the index its children, if the base images that lie
    in that repository have their layers there. -/
theorem complete_of_append (c : BuildConfig) (layers : List Layer) (w : Run MemoryRegistry)
    (hb : BasesComplete c w.registry) :
    WritesComplete c w.registry (append registry c layers w).2.registry := by
  have hends := append_ends c layers w
  rcases hout : append registry c layers w with ⟨e | artifact, w'⟩
  · exact (hends.error hout).writesComplete hb
  · exact (hends.ok hout).writesComplete hb

end Build

namespace TwoChildren

open Build

def here : BuildConfig := { base := "r.io/b@x:3", tag := "r.io/b:v" }

/-- Of the base images in the repository of the result, one has a layer. -/
theorem basesComplete_here : BasesComplete here start.registry := by
  intro tag r _ hbase _ raw i hraw hkind hdec l hl
  cases hbase with
  | configured parsedBase =>
    cases parsedBase.symm.trans parse_base
    cases hraw
    cases hkind
  | @child _ _ _ matcher d parsedBase stored decoded platforms eligible =>
    cases parsedBase.symm.trans parse_base
    cases stored
    rw [decode_index] at decoded
    cases decoded
    have hall : index.manifests =
        [entry (digit '1' rfl) "l", entry (digit '2' rfl) "w", attestation] := rfl
    have hd := (List.mem_filter.1 eligible).1
    rw [hall] at hd
    rcases List.mem_cons.1 hd with rfl | hd
    · cases hraw
      rw [decode_image] at hdec
      cases hdec
      rw [List.mem_singleton.1 hl]
      rfl
    rcases List.mem_cons.1 hd with rfl | hd
    · cases hraw
      cases hkind
    · cases List.mem_singleton.1 hd
      cases hraw

theorem complete_of_append_here : BasesComplete here start.registry ∧
    WritesComplete here start.registry (append registry here [] start).2.registry :=
  ⟨basesComplete_here, complete_of_append here [] start basesComplete_here⟩

end TwoChildren

end OciCompose
