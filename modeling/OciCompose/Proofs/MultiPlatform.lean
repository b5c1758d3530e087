import OciCompose.MultiPlatform
import OciCompose.Proofs.Appender
import OciCompose.Proofs.Json.Reader

/-
  What the composition of an index reads from a registry in memory and writes to it.
  A selection that succeeds is one child for each eligible entry of the base index, and reads nothing
  but manifests (`select_of_reads`, on any registry), so that it changes nothing (`select_ends`).
  Composing the children carries out their plans in order (`Composed`); the new index is put last
  (`push_ends`), so a failure leaves the results of the children before it.
-/

namespace OciCompose

open MemoryRegistry

/-- The entries of an index that are composed. -/
def ImageIndex.eligible (i : ImageIndex) (m : PlatformMatcher) : List Descriptor :=
  i.manifests.filter fun d => (d.skipReason? m).isNone

theorem ImageIndex.bytes_snapshot (i : ImageIndex) : i.snapshot.bytes = i.bytes := by
  unfold ImageIndex.snapshot
  dsimp only

namespace IndexAssembler

/-! ## Selection -/

/-- The child of an entry at a position. -/
def childOf (base : Reference) (entry : Descriptor × Nat) : SelectedChild where
  base := base.withDigest entry.1.digest
  position := entry.2
  platform := entry.1.platform

/-- The children of entries from a position on: one for each that is not left out. -/
def childrenOf (base : Reference) (m : PlatformMatcher) (position : Nat) (entries : List Descriptor) :
    List SelectedChild :=
  ((entries.zipIdx position).filter fun e => (e.1.skipReason? m).isNone).map (childOf base)

/-- The repository holds a manifest for a child, which is no index. -/
def Stored (m : MemoryRegistry) (child : SelectedChild) : Prop :=
  ∃ raw, m.manifest? child.base = some raw ∧ raw.kind.isIndex = false

section Reads

variable {σ : Type} {r : Registry σ} {I F : σ → Prop} {C : Reference → Prop}

/-- A selection reads manifests only. If each read keeps `I`, or stops with `F`, and `C` holds of a
    reference whose manifest is no index, `C` holds of all children. -/
theorem selectFrom_of_reads (hstops : ∀ s, I s → F s)
    (hread : ∀ ref s, I s → (r.getManifest ref).Ends s
      (fun raw s' => I s' ∧ (raw.kind.isIndex = false → C ref)) fun _ => F)
    (base : Reference) (m : PlatformMatcher) (position : Nat) (entries : List Descriptor)
    {w : Run σ} (hw : I w.registry) :
    (selectFrom r base m position entries).Ends w
      (fun children s => I s ∧ children = childrenOf base m position entries ∧
        ∀ child ∈ children, C child.base)
      fun _ => F := by
  induction entries generalizing position w with
  | nil => exact Build.Ends.pure ⟨hw, rfl, nofun⟩
  | cons d ds ih =>
    unfold selectFrom childrenOf
    rw [List.zipIdx_cons, List.filter_cons]
    cases hd : d.skipReason? m with
    | some reason =>
      exact Build.Ends.bind (Q := fun _ => I) (Build.Ends.report hw) fun _ _ h => ih (position + 1) h
    | none =>
      refine Build.Ends.bind (Build.Ends.call (hread _ _ hw)) ?_
      rintro raw w1 ⟨h1, hraw⟩
      dsimp only
      split
      · exact Build.Ends.bind (Q := fun _ _ => False) (Build.Ends.throw (hstops _ h1))
          fun _ _ h => h.elim
      next hk =>
      refine Build.Ends.bind (Q := fun _ => I) (Build.Ends.report h1) fun _ w2 h2 => ?_
      refine Build.Ends.bind (ih (position + 1) h2) ?_
      rintro children w3 ⟨h3, rfl, hc⟩
      exact Build.Ends.pure ⟨h3, rfl, List.forall_mem_cons.2 ⟨hraw (by simpa using hk), hc⟩⟩

theorem select_of_reads (hstops : ∀ s, I s → F s)
    (hread : ∀ ref s, I s → (r.getManifest ref).Ends s
      (fun raw s' => I s' ∧ (raw.kind.isIndex = false → C ref)) fun _ => F)
    (base : Reference) (raw : RawManifest) (matcher : PlatformMatcher)
    {w : Run σ} (hw : I w.registry) :
    (select r base raw matcher).Ends w
      (fun a s => I s ∧ base.digest.isSome = true ∧ raw.kind = .ociIndex ∧
        (∃ index, Json.Decode.ofBytes? ImageIndex.ofJson raw.bytes = some index ∧
          a = { base, raw, canvas := index.withoutManifests,
                children := childrenOf base matcher 0 index.manifests }) ∧
        (∀ child ∈ a.children, C child.base) ∧ a.children ≠ [])
      fun _ => F := by
  unfold select
  refine Build.Ends.bind (Q := fun _ s => base.digest.isSome = true ∧ I s)
    (Build.Ends.ofExcept ?_ fun _ _ => hstops _ hw) ?_
  · intro _ h
    unfold requirePinned at h
    split at h
    · next hp => exact ⟨hp, hw⟩
    · cases h
  rintro _ w1 ⟨hpinned, h1⟩
  dsimp only
  split
  · exact Build.Ends.bind (Q := fun _ _ => False) (Build.Ends.throw (hstops _ h1))
      fun _ _ h => h.elim
  next hkind =>
  rcases Json.Decode.ofBytes? ImageIndex.ofJson raw.bytes with _ | index
  · exact Build.Ends.throw (hstops _ h1)
  refine Build.Ends.bind (selectFrom_of_reads hstops hread base matcher 0 index.manifests h1) ?_
  rintro children w2 ⟨h2, rfl, hchildren⟩
  cases herr : selectionError? base raw matcher (childrenOf base matcher 0 index.manifests) with
  | some e => exact Build.Ends.throw (hstops _ h2)
  | none =>
    refine Build.Ends.pure ⟨h2, hpinned, by simpa using hkind, ⟨index, rfl, rfl⟩, hchildren, ?_⟩
    intro hnil
    dsimp only at hnil
    rw [hnil] at herr
    cases herr

end Reads

/-- Whatever the registry, a selection that succeeds gives the children of the index that it decoded. -/
theorem select_gives {σ : Type} (r : Registry σ) (base : Reference) (raw : RawManifest)
    (matcher : PlatformMatcher) (w : Run σ) :
    (select r base raw matcher).Ends w
      (fun a _ => ∃ index, Json.Decode.ofBytes? ImageIndex.ofJson raw.bytes = some index ∧
        a = { base, raw, canvas := index.withoutManifests,
              children := childrenOf base matcher 0 index.manifests })
      fun _ _ => True := by
  refine (select_of_reads (I := fun _ => True) (C := fun _ => True) (fun _ _ => trivial)
    (fun ref s _ => ?_) base raw matcher trivial).mono (fun _ _ h => h.2.2.2.1) fun _ _ h => h
  exact (Call.Ends.trivial _ s).mono (fun _ _ _ => ⟨trivial, fun _ => trivial⟩) fun _ _ _ => trivial

/-- A selection that succeeds, by what was read. -/
structure Selected (m : MemoryRegistry) (base : Reference) (raw : RawManifest)
    (matcher : PlatformMatcher) (a : IndexAssembler) : Prop where
  pinned : base.digest.isSome = true
  kind : raw.kind = .ociIndex
  assembled : ∃ index, Json.Decode.ofBytes? ImageIndex.ofJson raw.bytes = some index ∧
    a = { base, raw, canvas := index.withoutManifests,
          children := childrenOf base matcher 0 index.manifests }
  stored : ∀ child ∈ a.children, Stored m child
  nonempty : a.children ≠ []

/-- Selecting changes nothing. -/
theorem select_ends (base : Reference) (raw : RawManifest) (matcher : PlatformMatcher)
    (w : Run MemoryRegistry) :
    (select registry base raw matcher).Ends w
      (fun a m' => m' = w.registry ∧ Selected w.registry base raw matcher a)
      fun _ m' => m' = w.registry := by
  refine (select_of_reads (I := fun m' => m' = w.registry) (F := fun m' => m' = w.registry)
    (C := fun ref => ∃ raw, w.registry.manifest? ref = some raw ∧ raw.kind.isIndex = false)
    (fun _ h => h) ?_ base raw matcher rfl).mono ?_ fun _ _ h => h
  · rintro ref _ rfl
    exact (getManifest_ends ref w.registry).mono (fun raw _ h => ⟨h.1, fun hk => ⟨raw, h.2, hk⟩⟩)
      fun _ _ h => h.1
  · rintro a m' ⟨hm, pinned, kind, assembled, stored, nonempty⟩
    exact ⟨hm, pinned, kind, assembled, stored, nonempty⟩

theorem registry_of_select {base : Reference} {raw : RawManifest} {matcher : PlatformMatcher}
    {w w' : Run MemoryRegistry} {a : IndexAssembler}
    (h : select registry base raw matcher w = (.ok a, w')) : w'.registry = w.registry :=
  ((select_ends base raw matcher w).ok h).1

/-! ## Children -/

variable (each : LayerAppend) (tag : Reference)

/-- The image composed for a child from its base. -/
def LayerAppend.imageFor (child : SelectedChild) (base : ResolvedBase) : RawManifest :=
  (each.appender child tag).rawOf base each.layers

/-- What is reported of a child, with its entry in the new index. -/
def LayerAppend.reportFor (child : SelectedChild) (base : ResolvedBase) : Descriptor × AppendResult :=
  let result := (each.appender child tag).resultOf base each.layers
  (entryOf child result, result)

/-- The plans of children were carried out in order, each on the base that its child had then. -/
inductive Composed : MemoryRegistry → List SelectedChild → List ResolvedBase → MemoryRegistry → Prop
  | nil (m : MemoryRegistry) : Composed m [] [] m
  | cons {m n m' : MemoryRegistry} {child : SelectedChild} {base : ResolvedBase}
      {children : List SelectedChild} {bases : List ResolvedBase}
      (serves : m.Serves child.base base)
      (pushed : ((each.appender child tag).plan base each.layers).Pushed m n)
      (rest : Composed n children bases m') : Composed m (child :: children) (base :: bases) m'

/-- Composing children failed at one of them, of which blobs may have been added. -/
inductive Stopped (m : MemoryRegistry) (children : List SelectedChild) (e : Error) :
    MemoryRegistry → Prop
  | intro {n m' : MemoryRegistry} {before : List SelectedChild} {bases : List ResolvedBase}
      {child : SelectedChild} {after : List SelectedChild}
      (split : children = before ++ child :: after)
      (composed : Composed each tag m before bases n)
      (added : BlobsAdded tag.context n m')
      (prePush : e.isPrePush = true → m' = n)
      (fails : (each.appender child tag).Fails each.layers n e) : Stopped m children e m'

theorem Stopped.cons {m n m' : MemoryRegistry} {child : SelectedChild} {base : ResolvedBase}
    {children : List SelectedChild} {e : Error} (serves : m.Serves child.base base)
    (pushed : ((each.appender child tag).plan base each.layers).Pushed m n)
    (h : Stopped each tag n children e m') : Stopped each tag m (child :: children) e m' := by
  obtain ⟨split, composed, added, prePush, fails⟩ := h
  rw [split]
  exact ⟨rfl, .cons serves pushed composed, added, prePush, fails⟩

theorem composeChildren_ends (children : List SelectedChild)
    (hc : ∀ child ∈ children, child.composed = none) (w : Run MemoryRegistry) :
    (composeChildren (each.append registry tag) children).Ends w
      (fun out m' => ∃ bases, Composed each tag w.registry children bases m' ∧
        out = List.zipWith (each.reportFor tag) children bases)
      fun e m' => Stopped each tag w.registry children e m' := by
  induction children generalizing w with
  | nil => exact Build.Ends.pure ⟨[], .nil _, rfl⟩
  | cons child rest ih =>
    unfold composeChildren
    rw [hc child List.mem_cons_self]
    have happ := Appender.run_ends (each.appender child tag) rfl each.layers w
    refine Build.Ends.bind (Build.Ends.reporting (happ.mono (fun _ _ h => h) ?_)) ?_
    · intro e m' h
      obtain ⟨hadd, hpre, hfails⟩ := h
      exact ⟨(List.nil_append _).symm, .nil _, hadd, hpre, hfails⟩
    intro result w1 h1
    obtain ⟨base, hserves, rfl, hpushed⟩ := h1
    have hrest := ih (fun c h => hc c (List.mem_cons_of_mem _ h)) w1
    refine Build.Ends.bind (hrest.mono (fun _ _ h => h) ?_) ?_
    · exact fun e m' h => Stopped.cons each tag hserves hpushed h
    intro others w2 h2
    obtain ⟨bases, hcomposed, rfl⟩ := h2
    exact Build.Ends.pure ⟨base :: bases, .cons hserves hpushed hcomposed, rfl⟩

/-! ## The new index -/

/-- The new index over children composed from their bases. -/
def indexOf (a : IndexAssembler) (bases : List ResolvedBase) : ImageIndex :=
  { a.canvas with manifests := a.canvas.manifests ++
      (List.zipWith (each.reportFor tag) a.children bases).map Prod.fst }

/-- The index is put last: a failure is one of a child, or comes after all of them. -/
theorem push_ends (a : IndexAssembler) (hc : ∀ child ∈ a.children, child.composed = none)
    (baseRef : String) (w : Run MemoryRegistry) :
    (a.push registry (each.append registry tag) tag baseRef).Ends w
      (fun out m' => ∃ bases n, Composed each tag w.registry a.children bases n ∧
        out.index = a.indexOf each tag bases ∧ m' = n.publish tag out.index.snapshot ∧
        out.artifact = Artifact.indexImage tag out.index.snapshot.digest
          out.index.snapshot.mediaType out.index baseRef)
      fun e m' => Stopped each tag w.registry a.children e m' ∨
        e.isPrePush = false ∧ m'.manifestFailure ≠ none ∧
          ∃ bases, Composed each tag w.registry a.children bases m' := by
  unfold push
  refine Build.Ends.bind ((composeChildren_ends each tag a.children hc w).mono (fun _ _ h => h)
    fun _ _ h => Or.inl h) ?_
  intro out w1 h1
  obtain ⟨bases, hcomposed, rfl⟩ := h1
  dsimp only
  refine Build.Ends.bind (Build.Ends.call ((putManifest_ends tag _ w1.registry).mono
    (fun _ _ h => h) ?_)) ?_
  · intro e m' h
    obtain ⟨rfl, he, hf⟩ := h
    exact Or.inr ⟨he, hf, bases, hcomposed⟩
  intro _ w2 h2
  refine Build.Ends.bind (Q := fun _ m' => m' = w1.registry.publish tag
    (a.indexOf each tag bases).snapshot) (Build.Ends.report h2) ?_
  intro _ w3 h3
  exact Build.Ends.pure ⟨bases, w1.registry, hcomposed, rfl, h3, rfl⟩

/-! ## What is written -/

section Composed

variable {each tag} {m m' : MemoryRegistry} {children : List SelectedChild}
  {bases : List ResolvedBase}

/-- A composed image is pushed under its digest. -/
theorem target_imageFor (child : SelectedChild) (base : ResolvedBase) :
    ((each.appender child tag).plan base each.layers).target =
      tag.withDigest (each.imageFor tag child base).digest := rfl

theorem bytes_imageFor (child : SelectedChild) (base : ResolvedBase) :
    (each.imageFor tag child base).bytes =
      ((each.appender child tag).imageOf base each.layers).bytes :=
  Appender.bytes_rawOf _ base each.layers

/-- The images are written in the order of the children. -/
theorem Composed.pushed_eq (h : Composed each tag m children bases m') :
    m'.pushed = m.pushed ++
      (List.zipWith (each.imageFor tag) children bases).map
        fun image => ((tag.withDigest image.digest).toText, image) := by
  induction h with
  | nil => simp
  | @cons m n m' child base children bases serves pushed rest ih =>
    cases pushed with
    | @intro k added _ _ =>
      rw [ih, pushed_publish, added.pushed, target_imageFor]
      simp only [List.zipWith_cons_cons, List.map_cons, List.append_assoc]
      rfl

/-- Each child has one base, which was read where the child is pinned. -/
theorem Composed.reference_eq (h : Composed each tag m children bases m') :
    bases.map ResolvedBase.reference = children.map fun child => some child.base := by
  induction h with
  | nil => rfl
  | cons serves _ _ ih => rw [List.map_cons, List.map_cons, ih, serves.reference]

theorem Composed.length_eq (h : Composed each tag m children bases m') :
    bases.length = children.length := by
  simpa using congrArg List.length h.reference_eq

/-- Neither a tag nor another repository is touched. -/
theorem Composed.extended (h : Composed each tag m children bases m') :
    Extended tag.context m m' := by
  induction h with
  | nil m => exact Extended.refl _ m
  | @cons m n m' child base children bases serves pushed rest ih =>
    cases pushed with
    | intro added _ _ => exact added.extended.trans ((Extended.publish _ rfl).trans ih)

/-- What lies in another repository is read as it was before. -/
theorem Composed.manifest?_eq {r : Reference} (h : Composed each tag m children bases m')
    (hr : r.context ≠ tag.context) : m'.manifest? r = m.manifest? r :=
  h.extended.manifests _ _ hr

end Composed

/-- The entry of an image in the new index, instead of the one it was composed for. -/
def replacement (entry : Descriptor) (image : RawManifest) : Descriptor where
  mediaType := image.mediaType
  digest := Digest.ofBytes image.bytes
  size := UInt64.ofNat image.bytes.length
  platform := entry.platform

theorem platform_of_eligible {d : Descriptor} {m : PlatformMatcher}
    (h : (d.skipReason? m).isNone = true) : ∃ p, d.platform = some p := by
  unfold Descriptor.skipReason? at h
  cases hp : d.platform with
  | none => rw [hp] at h; cases h
  | some p => exact ⟨p, rfl⟩

theorem entryOf_reportFor {child : SelectedChild} {d : Descriptor} {p : Platform}
    (hc : child.platform = some p) (hd : d.platform = some p) (base : ResolvedBase) :
    (each.reportFor tag child base).1 = replacement d (each.imageFor tag child base) := by
  unfold LayerAppend.reportFor LayerAppend.imageFor entryOf replacement Appender.resultOf
  dsimp only
  rw [hc, hd, Option.some_or]
  rfl

/-- Entries of the new index replace the eligible ones in their order. -/
theorem entries_of_children (base : Reference) (pairs : List (Descriptor × Nat))
    (bases : List ResolvedBase) (hp : ∀ e ∈ pairs, ∃ p, e.1.platform = some p) :
    (List.zipWith (each.reportFor tag) (pairs.map (childOf base)) bases).map Prod.fst =
      List.zipWith replacement (pairs.map Prod.fst)
        (List.zipWith (each.imageFor tag) (pairs.map (childOf base)) bases) := by
  induction pairs generalizing bases with
  | nil => rfl
  | cons e es ih =>
    cases bases with
    | nil => rfl
    | cons b bs =>
      obtain ⟨p, hplatform⟩ := hp e List.mem_cons_self
      simp only [List.map_cons, List.zipWith_cons_cons]
      rw [ih bs fun x hx => hp x (List.mem_cons_of_mem _ hx),
        entryOf_reportFor each tag (show (childOf base e).platform = some p from hplatform)
          hplatform b]

theorem eligible_eq (i : ImageIndex) (m : PlatformMatcher) :
    ((i.manifests.zipIdx 0).filter fun e => (e.1.skipReason? m).isNone).map Prod.fst =
      i.eligible m := by
  unfold ImageIndex.eligible
  have h := List.filter_map (f := Prod.fst) (p := fun d : Descriptor => (d.skipReason? m).isNone)
    (l := i.manifests.zipIdx 0)
  rw [List.zipIdx_map_fst] at h
  exact h.symm

/-- What the children take from their entries is there for each eligible entry, in order. -/
theorem map_childrenOf {β : Type} {f : SelectedChild → β} {g : Descriptor → β} {base : Reference}
    (h : ∀ d n, f (childOf base (d, n)) = g d) (i : ImageIndex) (m : PlatformMatcher) :
    (childrenOf base m 0 i.manifests).map f = (i.eligible m).map g := by
  rw [← eligible_eq, childrenOf, List.map_map, List.map_map]
  exact List.map_congr_left fun e _ => h e.1 e.2

section Selected

variable {m : MemoryRegistry} {base : Reference} {raw : RawManifest} {matcher : PlatformMatcher}
  {a : IndexAssembler}

/-- No selected child is composed yet. -/
theorem Selected.fresh (h : Selected m base raw matcher a) :
    ∀ child ∈ a.children, child.composed = none := by
  intro child hchild
  obtain ⟨index, -, rfl⟩ := h.assembled
  obtain ⟨e, -, rfl⟩ := List.mem_map.1 hchild
  rfl

/-- There is a child for each eligible entry of the base index, and the new index has an entry for the
    image of each child. -/
theorem Selected.indexOf_eq (h : Selected m base raw matcher a) (each : LayerAppend)
    (tag : Reference) (bases : List ResolvedBase) :
    ∃ index images, Json.Decode.ofBytes? ImageIndex.ofJson raw.bytes = some index ∧
      a.children.map SelectedChild.base =
        (index.eligible matcher).map (fun d => base.withDigest d.digest) ∧
      images = List.zipWith (each.imageFor tag) a.children bases ∧
      a.indexOf each tag bases =
        { index with manifests := List.zipWith replacement (index.eligible matcher) images } := by
  obtain ⟨index, hdec, rfl⟩ := h.assembled
  refine ⟨index, _, hdec, map_childrenOf (fun _ _ => rfl) index matcher, rfl, ?_⟩
  rw [← eligible_eq index matcher]
  unfold indexOf ImageIndex.withoutManifests childrenOf
  dsimp only
  rw [List.nil_append, entries_of_children]
  intro e he
  exact platform_of_eligible (List.mem_filter.1 he).2

end Selected

/-- The pushed index is the base index with its eligible entries replaced, in their order, by those
    of the images pushed for them, and with no other entries. It is pushed as the bytes that were
    computed before, under its own media type, and it is what the artifact names. -/
theorem index_of_push {base : Reference} {raw : RawManifest} {matcher : PlatformMatcher}
    {a : IndexAssembler} {each : LayerAppend} {tag : Reference} {baseRef : String}
    {out : AssembledIndex} {w w1 w2 : Run MemoryRegistry}
    (hselect : select registry base raw matcher w = (.ok a, w1))
    (hpush : a.push registry (each.append registry tag) tag baseRef w1 = (.ok out, w2)) :
    ∃ (index : ImageIndex) (bases : List ResolvedBase) (images : List RawManifest),
      Json.Decode.ofBytes? ImageIndex.ofJson raw.bytes = some index ∧
      bases.map ResolvedBase.reference =
        (index.eligible matcher).map (fun d => some (base.withDigest d.digest)) ∧
      images = List.zipWith (each.imageFor tag) a.children bases ∧
      images.length = (index.eligible matcher).length ∧
      out.index =
        { index with manifests := List.zipWith replacement (index.eligible matcher) images } ∧
      w2.registry.pushed = w.registry.pushed ++
        images.map (fun image => ((tag.withDigest (Digest.ofBytes image.bytes)).toText, image)) ++
        [(tag.toText, out.index.snapshot)] ∧
      out.index.snapshot = ⟨out.index.mediaType.getD MediaType.ociIndex, out.index.bytes⟩ ∧
      w2.registry.manifest? (tag.withDigest (Digest.ofBytes out.index.bytes)) =
        some out.index.snapshot ∧
      (∀ t, tag.tag = some t → w2.registry.tagged? tag.context t = some out.index.snapshot) ∧
      out.artifact.hash = some (Digest.ofBytes out.index.bytes) ∧
      out.artifact.mediaType = out.index.mediaType.getD MediaType.ociIndex := by
  obtain ⟨hw1, hsel⟩ := (select_ends base raw matcher w).ok hselect
  obtain ⟨bases, n, hchildren, hindex, hw2, hartifact⟩ :=
    (push_ends each tag a hsel.fresh baseRef w1).ok hpush
  rw [hw1] at hchildren
  obtain ⟨index, images, hdec, hbases, himages, hnew⟩ := hsel.indexOf_eq each tag bases
  have hreference : bases.map ResolvedBase.reference =
      (index.eligible matcher).map fun d => some (base.withDigest d.digest) := by
    have hsome := congrArg (List.map some) hbases
    rw [List.map_map, List.map_map] at hsome
    exact hchildren.reference_eq.trans hsome
  have hcount : a.children.length = (index.eligible matcher).length := by
    simpa using congrArg List.length hbases
  have hdigest : Digest.ofBytes out.index.bytes = out.index.snapshot.digest := by
    rw [RawManifest.digest, ImageIndex.bytes_snapshot]
  refine ⟨index, bases, images, hdec, hreference, himages, ?_, hindex.trans hnew, ?_, rfl,
    ?_, ?_, ?_, ?_⟩
  · rw [himages, List.length_zipWith, hchildren.length_eq, Nat.min_self, hcount]
  · rw [hw2, pushed_publish, hchildren.pushed_eq, himages]
    rfl
  · rw [hw2, hdigest]
    exact manifest?_publish n tag _
  · intro t ht
    rw [hw2, tagged?_publish, if_pos ⟨rfl, ht⟩]
  · rw [hdigest, hartifact]
    rfl
  · rw [hartifact]
    rfl

end IndexAssembler

/-! ## An index of two children and an attestation -/

namespace TwoChildren

open IndexAssembler Json

/-- A digest of one digit. Nothing is hashed with its algorithm. -/
def digit (c : Char) (h : Hex.isLower c = true) : Digest where
  algorithm := "x"
  hex := String.ofList [c]
  wellFormed :=
    { algorithm_ne_nil := by decide
      colon_not_mem := by decide
      hex_ne_nil := by simp
      isLower := by simpa using h
      length_sha256 := fun h => absurd h (by decide) }

def pinned (d : Digest) : Reference where
  written := "r.io/b@" ++ d.toText
  name := "r.io/b"
  registry := "r.io"
  repository := "b"
  tag := none
  digest := some d

def image : ImageManifest where
  schemaVersion := 2
  config := { mediaType := "c", digest := digit '0' rfl, size := 2 }
  layers := [{ mediaType := "l", digest := digit '4' rfl, size := 3 }]

def entry (d : Digest) (os : String) : Descriptor where
  mediaType := MediaType.ociManifest
  digest := d
  size := 1
  platform := some { os }

/-- An entry that attests the first one. -/
def attestation : Descriptor where
  mediaType := MediaType.ociManifest
  digest := digit '5' rfl
  size := 1
  platform := some { os := "unknown", architecture := "unknown" }
  annotations := some (.ofList [("vnd.docker.reference.digest", "x:1"),
    ("vnd.docker.reference.type", "attestation-manifest")])

def index : ImageIndex where
  schemaVersion := 2
  manifests := [entry (digit '1' rfl) "l", entry (digit '2' rfl) "w", attestation]

def rawImage : RawManifest := ⟨MediaType.ociManifest, image.bytes⟩
def rawText : RawManifest := ⟨"t", []⟩
def rawIndex : RawManifest := ⟨MediaType.ociIndex, index.bytes⟩

/-- The first child of the index is an image, the second a text. -/
def stored : MemoryRegistry where
  blobs := ⟨[(("r.io/b", digit '0' rfl), ImageConfig.empty.bytes), (("r.io/b", digit '4' rfl), [])]⟩
  manifests := ⟨[(("r.io/b", .digest (digit '1' rfl)), rawImage),
    (("r.io/b", .digest (digit '2' rfl)), rawText),
    (("r.io/b", .digest (digit '3' rfl)), rawIndex)]⟩

def start : Run MemoryRegistry := { registry := stored }

theorem decode_image : Decode.ofBytes? ImageManifest.ofJson rawImage.bytes = some image := by
  unfold rawImage ImageManifest.bytes
  rw [Decode.ofBytes?_bytes]
  decide +kernel

theorem decode_index : Decode.ofBytes? ImageIndex.ofJson rawIndex.bytes = some index := by
  unfold rawIndex ImageIndex.bytes
  rw [Decode.ofBytes?_bytes]
  decide +kernel

theorem decode_config :
    Decode.ofBytes? ImageConfig.ofJson ImageConfig.empty.bytes = some ImageConfig.empty := by
  unfold ImageConfig.bytes
  rw [Decode.ofBytes?_bytes]
  decide +kernel

def base : Reference := pinned (digit '3' rfl)

def child (position : Nat) (d : Digest) (os : String) : SelectedChild where
  base := pinned d
  position := position
  platform := some { os }

def first : SelectedChild := child 0 (digit '1' rfl) "l"
def second : SelectedChild := child 1 (digit '2' rfl) "w"

def assembler (children : List SelectedChild) : IndexAssembler where
  base := base
  raw := rawIndex
  canvas := index.withoutManifests
  children := children

/-- The first child as a base. -/
def resolved : ResolvedBase where
  reference := some first.base
  raw := rawImage
  manifest := image
  config := ImageConfig.empty
  kind := .ociManifest

theorem serves_first : stored.Serves first.base resolved where
  reference := rfl
  stored := rfl
  kind := rfl
  isImage := rfl
  manifest := decode_image
  config := ⟨_, rfl, decode_config⟩

theorem not_fails_first {each : LayerAppend} {tag : Reference} {e : Error} :
    ¬ (each.appender first tag).Fails each.layers stored e := by
  intro h
  refine Appender.not_blocked (each.appender first tag) each.layers rfl rfl ?_
    (h.blocked resolved serves_first)
  intro r hr l hl
  cases hr
  rw [List.mem_singleton.1 hl]
  rfl

theorem not_stopped_first {each : LayerAppend} {tag : Reference} {e : Error} {m' : MemoryRegistry} :
    ¬ Stopped each tag stored [first] e m' := by
  intro h
  obtain ⟨split, composed, _, _, fails⟩ := h
  cases composed with
  | nil =>
    cases split
    exact not_fails_first fails
  | cons _ _ _ =>
    have hlength := congrArg List.length split
    simp at hlength

/-- The platform of the first child. -/
def wanted : PlatformMatcher := ⟨[{ os := "l" }]⟩

theorem select_first : (select registry base rawIndex wanted start).1 = .ok (assembler [first]) := by
  unfold select
  rw [decode_index]
  rfl

theorem select_both :
    (select registry base rawIndex .any start).1 = .ok (assembler [first, second]) := by
  unfold select
  rw [decode_index]
  rfl

def result : Reference where
  written := "r.io/c:v"
  name := "r.io/c"
  registry := "r.io"
  repository := "c"
  tag := some "v"
  digest := none

def nothing : LayerAppend := { layers := [], envs := [], provenance := {} }

/-- One of the two images is selected, so the new index has one entry. -/
theorem index_of_push_first : ∃ out w1 w2 image,
    select registry base rawIndex wanted start = (.ok (assembler [first]), w1) ∧
    (assembler [first]).push registry (nothing.append registry result) result "" w1 =
      (.ok out, w2) ∧
    w2.registry.pushed = [((result.withDigest (Digest.ofBytes image.bytes)).toText, image),
      (result.toText, ⟨MediaType.ociIndex, out.index.bytes⟩)] ∧
    out.index.manifests = [replacement (entry (digit '1' rfl) "l") image] ∧
    out.artifact.hash = some (Digest.ofBytes out.index.bytes) := by
  obtain ⟨w1, hselect⟩ := Call.eq_of_fst select_first
  have hw1 := registry_of_select hselect
  have hfresh : ∀ c ∈ (assembler [first]).children, c.composed = none := by
    intro c hc
    cases List.mem_singleton.1 hc
    rfl
  have hends := push_ends nothing result (assembler [first]) hfresh "" w1
  rw [hw1] at hends
  rcases hpush : (assembler [first]).push registry (nothing.append registry result) result "" w1
    with ⟨e | out, w2⟩
  · rcases hends.error hpush with h | ⟨-, h, bases, hcomposed⟩
    · exact (not_stopped_first h).elim
    · exact (h hcomposed.extended.manifestFailure).elim
  · obtain ⟨index', bases, images, hdec, -, -, hlength, hindex, hlog, hsnapshot, -, -, hhash, -⟩ :=
      index_of_push hselect hpush
    rw [decode_index] at hdec
    cases hdec
    have hone : index.eligible wanted = [entry (digit '1' rfl) "l"] := by rfl
    rw [hone] at hlength hindex
    obtain ⟨image, rfl⟩ := List.length_eq_one_iff.1 hlength
    have htype : out.index.mediaType = none := by
      rw [hindex]
      rfl
    rw [hsnapshot, htype] at hlog
    refine ⟨out, w1, w2, image, hselect, hpush, hlog, ?_, hhash⟩
    rw [hindex]
    rfl

end TwoChildren

end OciCompose
