import OciCompose.Proofs.Appending
import OciCompose.Proofs.Build
import OciCompose.Proofs.Independence
import OciCompose.Proofs.Reference

/-
  What the artifact of a build tells about a registry in memory.
  Of a composed index it names the platforms of the children that were pushed as OCI images
  (`platforms_of_index`). Its tag leads to what was pushed, unless the configured one has a digest
  already (`tagRef_of_append`).
-/

namespace OciCompose

open MemoryRegistry IndexAssembler Json

variable {c : BuildConfig} {layers : List Layer} {w w' : Run MemoryRegistry} {artifact : Artifact}

/-! ## New indexes -/

/-- A replacement has no annotations, so it is no attestation. -/
theorem isAttestation_replacement (entry : Descriptor) (image : RawManifest) :
    (replacement entry image).isAttestation = false := Bool.and_false _

/-- The platforms of a new index are those of the entries whose images are OCI images. -/
theorem ImageIndex.imagePlatforms_replacement (i : ImageIndex) (entries : List Descriptor)
    (images : List RawManifest) :
    ImageIndex.imagePlatforms { i with manifests := List.zipWith replacement entries images } =
      ((entries.zip images).filter fun e => e.2.kind = .ociManifest).filterMap
        fun e => e.1.platform := by
  have hzip : List.zipWith replacement entries images =
      (entries.zip images).map fun e => replacement e.1 e.2 := by
    rw [List.zip, List.map_zipWith]
  have hrunnable : ∀ d ∈ (List.zipWith replacement entries images).filter
      fun d => ManifestKind.ofMediaType d.mediaType = .ociManifest, (!d.isAttestation) = true := by
    intro d hd
    rw [hzip] at hd
    obtain ⟨e, -, rfl⟩ := List.mem_map.1 (List.mem_filter.1 hd).1
    rw [isAttestation_replacement]
    rfl
  unfold imagePlatforms
  dsimp only
  rw [List.filter_eq_self.2 hrunnable, hzip, List.filter_map, List.filterMap_map]
  rfl

namespace IndexAssembler

variable {each : LayerAppend} {tag base : Reference} {m : MemoryRegistry} {raw : RawManifest}
  {matcher : PlatformMatcher} {a : IndexAssembler}

theorem mediaType_imageFor (child : SelectedChild) (base : ResolvedBase) :
    (each.imageFor tag child base).mediaType = base.raw.mediaType :=
  Appender.mediaType_rawOf _ base each.layers

/-- An image has the media type that its child is stored with. -/
theorem Composed.mediaTypes_eq {m' : MemoryRegistry} {children : List SelectedChild}
    {bases : List ResolvedBase} (h : Composed each tag m children bases m')
    (hrepo : ∀ child ∈ children, child.base.context ≠ tag.context) :
    (List.zipWith (each.imageFor tag) children bases).map (fun image => some image.mediaType) =
      children.map fun child => (m.manifest? child.base).map RawManifest.mediaType := by
  induction h with
  | nil => rfl
  | @cons m n m' child base children bases serves pushed _ ih =>
    have hothers : ∀ c ∈ children, n.manifest? c.base = m.manifest? c.base := fun c hc =>
      (Composed.cons serves pushed (.nil n)).manifest?_eq (hrepo c (List.mem_cons_of_mem _ hc))
    rw [List.zipWith_cons_cons, List.map_cons, List.map_cons, serves.stored,
      ih fun c hc => hrepo c (List.mem_cons_of_mem _ hc), Option.map_some, mediaType_imageFor]
    refine congrArg (List.cons _) (List.map_congr_left fun c hc => ?_)
    rw [hothers c hc]

end IndexAssembler

namespace Build

theorem Composes.isSelected {tag base : Reference} {raw : RawManifest} {matcher : PlatformMatcher}
    {a : IndexAssembler} (h : Composes c w tag base raw matcher a) :
    Selected w.registry base raw matcher a := by
  obtain ⟨w1, hselect⟩ := Call.eq_of_fst h.selected
  exact ((select_ends base raw matcher w).ok hselect).2

/-- A build on an index succeeds if each child can be composed alone. -/
theorem Composes.append_ok {tag base : Reference} {raw : RawManifest} {matcher : PlatformMatcher}
    {a : IndexAssembler} (hc : Composes c w tag base raw matcher a)
    (hrepo : ∀ child ∈ a.children, child.base.context ≠ tag.context)
    (halone : ∀ child ∈ a.children, ∃ result,
      (c.each layers base).Alone tag w.registry child result) :
    ∃ artifact w', append registry c layers w = (.ok artifact, w') := by
  rcases h : append registry c layers w with ⟨e | artifact, w'⟩
  · cases (append_ends c layers w).error h with
    | before unselected _ _ => exact (unselected _ _ _ _ _ hc).elim
    | child composes stopped =>
      obtain ⟨rfl, rfl, rfl⟩ := hc.unique composes
      exact (not_stopped_of_alone hrepo halone stopped).elim
    | index composes composed _ refused =>
      obtain ⟨rfl, rfl, rfl⟩ := hc.unique composes
      obtain ⟨child, hchild⟩ := List.exists_mem_of_ne_nil _ hc.isSelected.nonempty
      obtain ⟨result, hresult⟩ := halone child hchild
      exact (refused (composed.extended.manifestFailure.trans hresult.accepts)).elim
  · exact ⟨artifact, w', rfl⟩

/-! ## Platforms of an index -/

theorem map_some_filterMap {α β : Type} {f : α → Option β} {l : List α}
    (h : ∀ x ∈ l, ∃ y, f x = some y) : (l.filterMap f).map some = l.map f := by
  rw [List.map_filterMap_some_eq_filter_map_isSome, List.filter_eq_self, List.forall_mem_map]
  exact fun x hx => Option.isSome_iff_exists.2 (h x hx)

theorem map_filter_eq_map_iff {α β : Type} {p : α → Bool} {f : α → β} {l : List α} :
    (l.filter p).map f = l.map f ↔ ∀ x ∈ l, p x = true := by
  constructor
  · intro h
    have hlength := congrArg List.length h
    rwa [List.length_map, List.length_map, List.length_filter_eq_length_iff] at hlength
  · intro h
    rw [List.filter_eq_self.2 h]

/-- The platforms of a composed index are those of the children that were pushed as OCI images. They
    are those of all children if and only if no other image was pushed. -/
theorem platforms_of_index {base : Reference} {raw : RawManifest}
    (hbase : Reference.parse c.base = .ok base) (hraw : w.registry.manifest? base = some raw)
    (hindex : raw.kind.isIndex = true) (h : append registry c layers w = (.ok artifact, w')) :
    ∃ tag matcher index images, Reference.parse c.tag = .ok tag ∧
      PlatformMatcher.ofTexts c.platforms = .ok matcher ∧
      Decode.ofBytes? ImageIndex.ofJson raw.bytes = some index ∧
      images.length = (index.eligible matcher).length ∧
      w'.registry.pushed = w.registry.pushed ++
        images.map (fun image => ((tag.withDigest image.digest).toText, image)) ++
        [(tag.toText, ImageIndex.snapshot
          { index with manifests := List.zipWith replacement (index.eligible matcher) images })] ∧
      (base.context ≠ tag.context → images.map (fun image => some image.mediaType) =
        (index.eligible matcher).map fun d =>
          (w.registry.manifest? (base.withDigest d.digest)).map RawManifest.mediaType) ∧
      artifact.platforms.map some =
        (((index.eligible matcher).zip images).filter fun e => e.2.kind = .ociManifest).map
          (fun e => e.1.platform) ∧
      (artifact.platforms.map some = (index.eligible matcher).map Descriptor.platform ↔
        ∀ image ∈ images, image.kind = .ociManifest) := by
  obtain ⟨tag, matcher, a, bases, n, composes, composed, hm', hplatforms⟩ :=
    ((append_ends c layers w).ok h).of_isIndex hbase hraw hindex
  obtain ⟨index, images, hread, hchildren, himages, hnew⟩ :=
    composes.isSelected.indexOf_eq (c.each layers base) tag bases
  have hmediaTypes := composed.mediaTypes_eq
  have hlog := composed.pushed_eq
  rw [← himages] at hmediaTypes hlog
  have hlength : images.length = (index.eligible matcher).length := by
    have hcount := congrArg List.length hchildren
    rw [List.length_map, List.length_map] at hcount
    rw [himages, List.length_zipWith, composed.length_eq, Nat.min_self, hcount]
  have hpairs : ∀ e ∈ (index.eligible matcher).zip images, ∃ p, e.1.platform = some p :=
    fun e he => platform_of_eligible (List.mem_filter.1 (List.of_mem_zip he).1).2
  have hnamed : artifact.platforms.map some =
      (((index.eligible matcher).zip images).filter fun e => e.2.kind = .ociManifest).map
        fun e => e.1.platform := by
    rw [hplatforms, hnew, ImageIndex.imagePlatforms_replacement,
      map_some_filterMap fun e he => hpairs e (List.mem_filter.1 he).1]
  have hentries : (index.eligible matcher).map Descriptor.platform =
      ((index.eligible matcher).zip images).map fun e => e.1.platform := by
    conv => lhs; rw [← List.map_fst_zip (Nat.le_of_eq hlength.symm), List.map_map]
    rfl
  refine ⟨tag, matcher, index, images, composes.parsedTag, composes.platforms, hread, hlength, ?_,
    fun hrepo => ?_, hnamed, ?_⟩
  · rw [hm', pushed_publish, hlog, ← hnew]
  · have hbases := congrArg
      (List.map fun r => (w.registry.manifest? r).map RawManifest.mediaType) hchildren
    rw [List.map_map, List.map_map] at hbases
    refine (hmediaTypes fun child hchild => ?_).trans hbases
    obtain ⟨d, -, hd⟩ := List.mem_map.1 (hchildren ▸ List.mem_map_of_mem hchild)
    rw [← hd]
    exact hrepo
  · rw [hnamed, hentries, map_filter_eq_map_iff]
    conv => rhs; rw [← List.map_snd_zip (Nat.le_of_eq hlength)]
    rw [List.forall_mem_map]
    exact forall₂_congr fun _ _ => decide_eq_true_iff

end Build

namespace TwoChildren

open Build

/-- The manifest of the image in the other dialect. -/
def rawDocker : RawManifest := ⟨MediaType.dockerManifest, image.bytes⟩

/-- The second child is stored in the other dialect, which its entry does not say. -/
def mixed : MemoryRegistry :=
  { stored with
    manifests := stored.manifests.insert (second.base.context, .ofReference second.base) rawDocker }

theorem composes_mixed :
    Composes elsewhere { registry := mixed } result base rawIndex .any
      (assembler [first, second]) where
  parsedTag := by rfl
  platforms := by rfl
  named := by decide
  parsedBase := parse_base
  stored := by rfl
  isIndex := by rfl
  selected := by
    unfold select
    rw [decode_index]
    rfl

theorem serves_mixed_first : mixed.Serves first.base resolved where
  reference := rfl
  stored := rfl
  kind := rfl
  isImage := rfl
  manifest := decode_image
  config := ⟨_, rfl, decode_config⟩

theorem serves_mixed_second : mixed.Serves second.base
    { resolved with reference := some second.base, raw := rawDocker, kind := .dockerManifest } where
  reference := rfl
  stored := rfl
  kind := rfl
  isImage := rfl
  manifest := decode_image
  config := ⟨_, rfl, decode_config⟩

theorem alone_mixed : ∀ child ∈ [first, second], ∃ r,
    (elsewhere.each [] base).Alone result mixed child r := by
  intro child hchild
  rcases List.mem_cons.1 hchild with rfl | hchild
  · refine LayerAppend.alone_of_serves serves_mixed_first rfl rfl fun l hl => ?_
    rw [List.mem_singleton.1 hl]
    rfl
  · obtain rfl := List.mem_singleton.1 hchild
    refine LayerAppend.alone_of_serves serves_mixed_second rfl rfl fun l hl => ?_
    rw [List.mem_singleton.1 hl]
    rfl

theorem append_mixed :
    ∃ artifact w', append registry elsewhere [] { registry := mixed } = (.ok artifact, w') := by
  have hrepo : ∀ child ∈ [first, second], child.base.context ≠ result.context := by decide +kernel
  exact composes_mixed.append_ok hrepo alone_mixed

/-- Both children are composed, and the artifact names the platform of the first. -/
theorem platforms_of_index_mixed : ∃ artifact w',
    append registry elsewhere [] { registry := mixed } = (.ok artifact, w') ∧
    w'.registry.pushed.length = 3 ∧ artifact.platforms = [{ os := "l" }] := by
  obtain ⟨artifact, w', happend⟩ := append_mixed
  obtain ⟨tag, matcher, i, images, htag, hmatcher, hread, -, hlog, htypes, hplatforms, -⟩ :=
    platforms_of_index composes_mixed.parsedBase composes_mixed.stored composes_mixed.isIndex
      happend
  obtain rfl := Except.ok.inj (composes_mixed.parsedTag.symm.trans htag)
  obtain rfl := Except.ok.inj (composes_mixed.platforms.symm.trans hmatcher)
  rw [decode_index] at hread
  obtain rfl := Option.some.inj hread
  have hboth : index.eligible .any = [entry (digit '1' rfl) "l", entry (digit '2' rfl) "w"] := by rfl
  rw [hboth] at htypes hplatforms
  have htwo : images.map (fun image => some image.mediaType) =
      [some MediaType.ociManifest, some MediaType.dockerManifest] := htypes (by decide)
  obtain ⟨x, rest, rfl, hx, hrest⟩ := List.map_eq_cons_iff.1 htwo
  obtain ⟨y, rest, rfl, hy, hnil⟩ := List.map_eq_cons_iff.1 hrest
  obtain rfl := List.map_eq_nil_iff.1 hnil
  have hoci : x.kind = .ociManifest :=
    congrArg ManifestKind.ofMediaType (Option.some.inj hx)
  have hdocker : y.kind = .dockerManifest :=
    congrArg ManifestKind.ofMediaType (Option.some.inj hy)
  have hfirst : (([entry (digit '1' rfl) "l", entry (digit '2' rfl) "w"].zip [x, y]).filter
      fun e => e.2.kind = .ociManifest) = [(entry (digit '1' rfl) "l", x)] := by
    simp [hoci, hdocker]
  rw [hfirst] at hplatforms
  refine ⟨artifact, w', happend, ?_, ?_⟩
  · rw [hlog]
    rfl
  · exact (List.map_inj_right fun _ _ => Option.some.inj).1 hplatforms

end TwoChildren

namespace Build

/-! ## Tags -/

/-- A manifest is looked up by the digest of a reference if there is one. -/
theorem manifest?_of_digest (m : MemoryRegistry) {r s : Reference} {d : Digest}
    (hcontext : r.context = s.context) (hr : r.digest = some d) (hs : s.digest = some d) :
    m.manifest? r = m.manifest? s := by
  unfold MemoryRegistry.manifest? ManifestKey.ofReference
  rw [hcontext, hr, hs]

/-- What was pushed last is stored under the digest that the artifact names. -/
theorem Published.stored {m' : MemoryRegistry} (h : Published c layers w artifact m') :
    ∃ tag raw, Reference.parse c.tag = .ok tag ∧ artifact.hash = some raw.digest ∧
      artifact.tagRef = tag.written ++ "@" ++ raw.digest.toText ∧
      m'.manifest? (tag.withDigest raw.digest) = some raw := by
  cases h with
  | image parsedTag _ _ pushed hash tagRef _ =>
    obtain ⟨n, -, rfl⟩ := pushed.published
    rw [Appender.manifest_plan]
    exact ⟨_, _, parsedTag, hash, tagRef, manifest?_publish n _ _⟩
  | index composes _ hash tagRef _ =>
    exact ⟨_, _, composes.parsedTag, hash, tagRef, manifest?_publish _ _ _⟩

/-- The tag of an artifact is read as a reference to the manifest that the artifact names, if the
    configured tag has no digest. If it has one, the tag of the artifact has two of them and is not
    read at all. -/
theorem tagRef_of_append (h : append registry c layers w = (.ok artifact, w')) :
    ∃ tag, Reference.parse c.tag = .ok tag ∧
      (tag.digest = none → ∃ r raw, Reference.parse artifact.tagRef = .ok r ∧
        getManifest r w'.registry = (.ok raw, w'.registry) ∧ artifact.hash = some raw.digest) ∧
      (tag.digest ≠ none → ∃ shown,
        Reference.parse artifact.tagRef = .error (.invalidReference shown .badDigest)) := by
  obtain ⟨tag, raw, htag, hhash, htagRef, hstored⟩ := ((append_ends c layers w).ok h).stored
  refine ⟨tag, htag, fun hnone => ?_, fun hsome => ?_⟩
  · obtain ⟨r, hparse, hcontext, hdigest⟩ :=
      Reference.parse_append_digest htag hnone raw.digest
    refine ⟨r, raw, htagRef ▸ hparse, ?_, hhash⟩
    have hr : w'.registry.manifest? r = some raw :=
      (manifest?_of_digest _ (s := tag.withDigest raw.digest) hcontext hdigest rfl).trans hstored
    unfold getManifest
    rw [hr]
  · rw [htagRef]
    exact Reference.parse_append_digest_pinned htag hsome raw.digest

end Build

namespace TwoChildren

open Build

/-- An image on no base, whose tag has a digest. -/
def twice : BuildConfig := { tag := "r.io/c:v@x:3" }

theorem append_twice :
    ∃ artifact w', append registry twice [] { registry := .empty } = (.ok artifact, w') := by
  obtain ⟨tag, htag⟩ : ∃ tag, Reference.parse twice.tag = .ok tag := ⟨_, rfl⟩
  have hbase : Base? twice none := rfl
  have hresolves : (twice.appender tag none).Resolves .empty .empty := rfl
  refine append_ok_of_not_blocked htag rfl hbase hresolves ?_
  exact Appender.not_blocked _ [] rfl rfl fun r hr => by cases hr

/-- The image is pushed, and the tag of its artifact is not read. -/
theorem tagRef_of_append_twice : ∃ artifact w' shown,
    append registry twice [] { registry := .empty } = (.ok artifact, w') ∧
    Reference.parse artifact.tagRef = .error (.invalidReference shown .badDigest) := by
  obtain ⟨artifact, w', happend⟩ := append_twice
  obtain ⟨tag, htag, -, hpinned⟩ := tagRef_of_append happend
  have hdigest : tag.digest ≠ none := by
    cases htag
    decide
  obtain ⟨shown, hshown⟩ := hpinned hdigest
  exact ⟨artifact, w', shown, happend, hshown⟩

end TwoChildren

end OciCompose
