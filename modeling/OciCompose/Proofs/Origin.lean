import OciCompose.Proofs.Artifact
import OciCompose.Proofs.Build
import OciCompose.Proofs.ReadBack

/-
  Where the platforms of an artifact come from.
  Whatever the registry, they are those of the base: of the config of an image, or of entries of an
  index (`append_gives`). So they are as arbitrary as a base is, and the JSON of the artifact keeps them
  if and only if they are plain (`platforms_of_append`).
-/

namespace OciCompose

open Json MemoryRegistry IndexAssembler

variable {σ : Type} {r : Registry σ}

/-! ## Indexes -/

theorem ImageIndex.imagePlatforms_sublist (i : ImageIndex) :
    i.imagePlatforms.Sublist (i.manifests.filterMap Descriptor.platform) :=
  (List.filter_sublist.trans List.filter_sublist).filterMap _

namespace IndexAssembler

/-- The children that are selected have the platforms of the eligible entries. -/
theorem select_platforms (base : Reference) (raw : RawManifest) (m : PlatformMatcher) (w : Run σ) :
    (select r base raw m).Ends w
      (fun a _ => ∃ index, Decode.ofBytes? ImageIndex.ofJson raw.bytes = some index ∧
        a.canvas.manifests = [] ∧
        a.children.map SelectedChild.platform = (index.eligible m).map Descriptor.platform)
      fun _ _ => True := by
  refine (select_gives r base raw m w).mono ?_ fun _ _ h => h
  rintro _ s' ⟨index, hread, rfl⟩
  exact ⟨index, hread, rfl, map_childrenOf (fun _ _ => rfl) index m⟩

/-- Children with the platforms of eligible entries have one each. -/
theorem exists_platform {index : ImageIndex} {m : PlatformMatcher} {children : List SelectedChild}
    (h : children.map SelectedChild.platform = (index.eligible m).map Descriptor.platform) :
    ∀ child ∈ children, ∃ p, child.platform = some p := by
  intro child hchild
  obtain ⟨d, hd, hplatform⟩ := List.mem_map.1 (h ▸ List.mem_map_of_mem hchild)
  rw [← hplatform]
  exact platform_of_eligible (List.mem_filter.1 hd).2

/-- An entry of the new index has the platform of its child. -/
theorem composeChildren_platforms (append : SelectedChild → Build σ AppendResult)
    (children : List SelectedChild) (hp : ∀ child ∈ children, ∃ p, child.platform = some p)
    (w : Run σ) :
    (composeChildren append children).Ends w
      (fun out _ => out.map (fun e => e.1.platform) = children.map SelectedChild.platform)
      fun _ _ => True := by
  induction children generalizing w with
  | nil => exact Build.Ends.pure rfl
  | cons child rest ih =>
    unfold composeChildren
    split
    · exact Build.Ends.throw trivial
    refine Build.Ends.bind (Q := fun _ _ => True) (Call.Ends.trivial _ _) ?_
    intro result w1 _
    refine Build.Ends.bind (ih (fun c hc => hp c (List.mem_cons_of_mem _ hc)) w1) ?_
    intro others w2 hothers
    obtain ⟨p, hplatform⟩ := hp child List.mem_cons_self
    refine Build.Ends.pure ?_
    rw [List.map_cons, List.map_cons, hothers, entryOf, hplatform]
    rfl

/-- The index that is pushed has an entry for each child, with its platform. The artifact names the
    platforms of the images among them. -/
theorem push_platforms (a : IndexAssembler) (hcanvas : a.canvas.manifests = [])
    (hp : ∀ child ∈ a.children, ∃ p, child.platform = some p)
    (append : SelectedChild → Build σ AppendResult) (tag : Reference) (baseRef : String)
    (w : Run σ) :
    (a.push r append tag baseRef).Ends w
      (fun out s' => (∃ s, r.putManifest tag out.index.snapshot s = (.ok (), s')) ∧
        out.index.manifests.map Descriptor.platform = a.children.map SelectedChild.platform ∧
        out.artifact.platforms = out.index.imagePlatforms)
      fun _ _ => True := by
  unfold push
  refine Build.Ends.bind (composeChildren_platforms append a.children hp w) ?_
  intro composed w1 hcomposed
  dsimp only
  rw [hcanvas, List.nil_append]
  refine Build.Ends.bind (Build.Ends.call ((Call.Ends.self _ _).mono (fun _ s h => h)
    fun _ _ _ => trivial)) ?_
  intro _ w2 hput
  refine Build.Ends.bind (Q := fun _ s' => s' = w2.registry) (Build.Ends.report rfl) ?_
  intro _ w3 hw3
  refine Build.Ends.pure ⟨⟨w1.registry, hw3 ▸ hput⟩, ?_, rfl⟩
  rw [← hcomposed, List.map_map]
  rfl

end IndexAssembler

namespace Build

variable {c : BuildConfig} {layers : List Layer}

/-! ## Builds -/

/-- What a base gives as platforms: that of the config of an image, or those of entries of an index. -/
inductive GivesPlatforms (r : Registry σ) (c : BuildConfig) : List Platform → Prop
  | image {tag : Reference} {base? : Option Reference} {s : σ} {base : ResolvedBase} {content : Bytes}
      (named : Base? c base?) (reads : (c.appender tag base?).ReadsBase r s base content) :
      GivesPlatforms r c base.config.platform?.toList
  | index {base : Reference} {s s' : σ} {raw : RawManifest} {matcher : PlatformMatcher}
      {index : ImageIndex} {platforms : List Platform} (named : Reference.parse c.base = .ok base)
      (got : r.getManifest base s = (.ok raw, s'))
      (read : Decode.ofBytes? ImageIndex.ofJson raw.bytes = some index)
      (parsed : PlatformMatcher.ofTexts c.platforms = .ok matcher)
      (sublist : platforms.Sublist ((index.eligible matcher).filterMap Descriptor.platform)) :
      GivesPlatforms r c platforms

theorem appendSingle_gives {tag : Reference} {base? : Option Reference} (hbase : Base? c base?)
    (baseRef : String) (w : Run σ) :
    (appendSingle r (c.appender tag base?) layers baseRef).Ends w
      (fun artifact _ => GivesPlatforms r c artifact.platforms) fun _ _ => True := by
  unfold appendSingle
  refine Build.Ends.bind (Appender.resolveBase_reads w) ?_
  rintro ⟨base, a⟩ w1 ⟨⟨content, hreads⟩, ha⟩
  dsimp only at hreads ha ⊢
  have hstate : a.state = some base := by rw [ha]
  have hcompose := a.compose_ends_of_push base layers (r := r) (w := w1) (P := fun _ => True)
    (F := fun _ _ => True) (Call.Ends.trivial _ _)
  rw [← Appender.run_of_state a r layers hstate] at hcompose
  refine Build.Ends.bind (b := a.run r layers) hcompose ?_
  rintro result w2 ⟨rfl, -⟩
  have hplatform : (a.resultOf base layers).descriptor.platform = base.config.platform? :=
    a.platform?_configOf base layers
  refine Build.Ends.pure ?_
  show GivesPlatforms r c (a.resultOf base layers).descriptor.platform.toList
  rw [hplatform]
  exact .image hbase hreads

theorem append_gives (c : BuildConfig) (layers : List Layer) (w : Run σ) :
    (append r c layers).Ends w (fun artifact _ => GivesPlatforms r c artifact.platforms)
      fun _ _ => True := by
  unfold append
  refine Build.Ends.bind (Q := fun _ _ => True) (Call.Ends.trivial _ _) ?_
  intro tag w1 _
  refine Build.Ends.bind (Q := fun matcher _ => PlatformMatcher.ofTexts c.platforms = .ok matcher)
    (Build.Ends.ofExcept (fun _ h => h) fun _ _ => trivial) ?_
  intro matcher w2 hmatcher
  dsimp only
  split
  · next hempty =>
    refine Build.Ends.bind (Q := fun _ _ => True) (Build.Ends.reportAll trivial) ?_
    intro _ w3 _
    exact appendSingle_gives (show Base? c none from hempty) "" w3
  refine Build.Ends.bind (Q := fun base _ => Reference.parse c.base = .ok base)
    (Build.Ends.ofExcept (fun _ h => h) fun _ _ => trivial) ?_
  intro base w3 hbase
  refine Build.Ends.bind (Q := fun raw s' => ∃ s, r.getManifest base s = (.ok raw, s'))
    (Build.Ends.call ((Call.Ends.self _ _).mono (fun _ _ h => ⟨_, h⟩) fun _ _ _ => trivial)) ?_
  rintro raw w4 ⟨s, hgot⟩
  split
  · split
    · exact Build.Ends.bind (Q := fun _ _ => False) (Build.Ends.throw trivial) fun _ _ h => h.elim
    refine Build.Ends.bind (select_platforms base raw matcher w4) ?_
    rintro a w5 ⟨index, hread, hcanvas, hchildren⟩
    refine Build.Ends.bind
      (push_platforms a hcanvas (exists_platform hchildren) _ tag c.base w5) ?_
    rintro out w6 ⟨-, hentries, himages⟩
    have heligible := congrArg (List.filterMap id) (hentries.trans hchildren)
    rw [List.filterMap_map, List.filterMap_map] at heligible
    refine Build.Ends.pure (.index hbase hgot hread hmatcher ?_)
    rw [himages]
    exact heligible ▸ ImageIndex.imagePlatforms_sublist _
  · refine Build.Ends.bind (Q := fun _ _ => True) (Build.Ends.reportAll trivial) ?_
    intro _ w5 _
    exact appendSingle_gives (show Base? c (some base) from hbase) c.base w5

/-- The artifact of an image names the platform of its base. -/
theorem Published.platforms_of_serves {w : Run MemoryRegistry} {artifact : Artifact}
    {r : Reference} {base : ResolvedBase} {m' : MemoryRegistry}
    (h : Published c layers w artifact m') (hbase : Reference.parse c.base = .ok r)
    (hserves : w.registry.Serves r base) : artifact.platforms = base.config.platform?.toList := by
  cases h with
  | @image _ base? b _ _ _ named resolves _ _ _ platforms =>
    cases base? with
    | none => exact (Base?.named (show Base? c (some r) from hbase) named).elim
    | some r' =>
      obtain rfl : r = r' := Except.ok.inj (hbase.symm.trans named)
      rw [platforms, MemoryRegistry.Serves.unique resolves hserves]
  | index composes _ _ _ _ =>
    obtain rfl := Except.ok.inj (composes.parsedBase.symm.trans hbase)
    have hindex := composes.isIndex
    rw [hserves.not_isIndex composes.stored] at hindex
    cases hindex

/-- The platforms of an artifact are those that the base gives. They survive its JSON if and only if
    each of them is plain, which a base need not ensure. -/
theorem platforms_of_append {w w' : Run σ} {artifact : Artifact}
    (h : append r c layers w = (.ok artifact, w')) :
    GivesPlatforms r c artifact.platforms ∧
    ∃ b, Decode.ofText? Artifact.ofJson artifact.toJson.compact = some b ∧
      b.platforms = artifact.platforms.map (fun p => Platform.parseLenient p.toText) ∧
      (b.platforms = artifact.platforms ↔ ∀ p ∈ artifact.platforms, p.IsPlain) :=
  ⟨(append_gives c layers w).ok h, artifact.rebuilt, artifact.ofText?_toJson,
    artifact.platforms_rebuilt, artifact.platforms_rebuilt_iff⟩

end Build

namespace TwoChildren

open Build

/-- A platform that is not plain: there is a variant, but no architecture. -/
def bare : ImageConfig := { ImageConfig.empty with os := "l", variant := some "v" }

/-- The first child with that config. -/
def storedBare : MemoryRegistry := stored.setBlob first.base image.config.digest bare.bytes

theorem decode_bare : Decode.ofBytes? ImageConfig.ofJson bare.bytes = some bare := by
  unfold ImageConfig.bytes
  rw [Decode.ofBytes?_bytes]
  decide +kernel

theorem blob_bare : storedBare.blob? first.base image.config.digest = some bare.bytes := by
  decide +kernel

theorem serves_bare : storedBare.Serves first.base { resolved with config := bare } where
  reference := rfl
  stored := rfl
  kind := rfl
  isImage := rfl
  manifest := decode_image
  config := ⟨_, blob_bare, decode_bare⟩

def ontoFirst : BuildConfig := { base := "r.io/b@x:1", tag := "r.io/c:v" }

theorem parse_first : Reference.parse "r.io/b@x:1" = .ok first.base := by rfl

theorem append_bare :
    ∃ artifact w', append registry ontoFirst [] { registry := storedBare } = (.ok artifact, w') := by
  have htag : Reference.parse ontoFirst.tag = .ok result := by rfl
  have hbase : Base? ontoFirst (some first.base) := parse_first
  refine append_ok_of_not_blocked htag rfl hbase serves_bare ?_
  refine Appender.not_blocked _ [] rfl rfl fun r hr l hl => ?_
  cases hr
  rw [List.mem_singleton.1 hl]
  rfl

/-- The variant of a platform is read as its architecture. -/
theorem platforms_of_append_bare : ∃ artifact w' b,
    append registry ontoFirst [] { registry := storedBare } = (.ok artifact, w') ∧
    artifact.platforms = [{ os := "l", variant := some "v" }] ∧
    Decode.ofText? Artifact.ofJson artifact.toJson.compact = some b ∧
    b.platforms = [{ os := "l", architecture := "v" }] := by
  obtain ⟨artifact, w', happend⟩ := append_bare
  obtain ⟨-, b, hread, hplatforms, -⟩ := platforms_of_append happend
  have hgiven := ((append_ends _ _ _).ok happend).platforms_of_serves parse_first serves_bare
  refine ⟨artifact, w', b, happend, hgiven, hread, ?_⟩
  rw [hplatforms, hgiven]
  decide +kernel

end TwoChildren

end OciCompose
