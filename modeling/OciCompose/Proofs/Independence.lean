import OciCompose.Proofs.Composition

/-
  Children of an index are composed independently.
  What is written for one child leaves the bases of the others as they are, and blocks none of their
  pushes (`append_alone`). So all children are composed if each can be alone, and with the same
  results (`children_independent`).
-/

namespace OciCompose

open MemoryRegistry

namespace IndexAssembler

/-- What an appender of its own gives for a child, starting from a registry. -/
def LayerAppend.Alone (each : LayerAppend) (tag : Reference) (m : MemoryRegistry)
    (child : SelectedChild) (result : AppendResult) : Prop :=
  ∃ (w w' : Run MemoryRegistry) (a : Appender), w.registry = m ∧
    (each.appender child tag).append registry each.layers w = (.ok result, a, w')

variable {each : LayerAppend} {tag : Reference} {m : MemoryRegistry}

theorem LayerAppend.Alone.base {child : SelectedChild} {result : AppendResult}
    (h : each.Alone tag m child result) : ∃ base, m.Serves child.base base ∧
      result = (each.appender child tag).resultOf base each.layers ∧
      ¬ ((each.appender child tag).plan base each.layers).Blocked m := by
  obtain ⟨w, w', a, rfl, happend⟩ := h
  have hrun := Appender.run_of_append happend
  obtain ⟨base, hbase, hresult, -⟩ := (Appender.run_ends _ rfl each.layers w).ok hrun
  refine ⟨base, hbase, hresult, fun hblocked => ?_⟩
  exact (Appender.run_fails_of_blocked _ rfl each.layers hbase hblocked).ok hrun

/-- A registry where something was pushed accepts manifests. -/
theorem LayerAppend.Alone.accepts {child : SelectedChild} {result : AppendResult}
    (h : each.Alone tag m child result) : m.manifestFailure = none := by
  obtain ⟨base, -, -, hfree⟩ := h.base
  cases hf : m.manifestFailure with
  | none => rfl
  | some reason => exact (hfree (.manifests (by rw [hf]; nofun))).elim

/-- A child can be composed alone if its layers lie where its base is, and uploads are not refused. -/
theorem LayerAppend.alone_of_serves {child : SelectedChild} {base : ResolvedBase}
    (h : m.Serves child.base base) (hblobs : m.blobFailure = none)
    (hmanifests : m.manifestFailure = none)
    (hlayers : ∀ l ∈ base.manifest.layers, m.hasBlob child.base l.digest = true) :
    ∃ result, each.Alone tag m child result := by
  have hfree : ¬ ((each.appender child tag).plan base each.layers).Blocked m := by
    refine Appender.not_blocked _ each.layers hblobs hmanifests fun r hr => ?_
    obtain rfl := Option.some.inj (h.reference.symm.trans hr)
    exact hlayers
  have hbase : (each.appender child tag).Resolves m base := h
  obtain ⟨a, w, happend⟩ := Appender.append_of_not_blocked (w := { registry := m }) rfl hbase hfree
  exact ⟨_, { registry := m }, w, a, rfl, happend⟩

/-- A child that can be composed alone is composed with the same result after others. -/
theorem append_alone {child : SelectedChild} {result : AppendResult}
    (hrepo : child.base.context ≠ tag.context) (h : each.Alone tag m child result)
    {w : Run MemoryRegistry} (hw : Extended tag.context m w.registry) :
    (each.append registry tag child).Ends w
      (fun r m' => r = result ∧ Extended tag.context m m') fun _ _ => False := by
  obtain ⟨base, hserves, rfl, hfree⟩ := h.base
  have hbase : (each.appender child tag).Resolves w.registry base :=
    hserves.of_confined hw.toConfined hrepo
  refine (Appender.run_ends (each.appender child tag) rfl each.layers w).mono ?_ ?_
  · rintro r m' ⟨b, hb, rfl, hpushed⟩
    obtain rfl := hb.unique hbase
    obtain ⟨n, hadded, rfl⟩ := hpushed.published
    exact ⟨rfl, hw.trans (hadded.extended.trans (Extended.publish _ rfl))⟩
  · rintro e m' ⟨-, -, hfails⟩
    exact hfree ((hfails.blocked base hbase).of_extended hw)

/-- No child at which composing stops could be composed alone. -/
theorem not_stopped_of_alone {children : List SelectedChild} {e : Error} {m' : MemoryRegistry}
    (hrepo : ∀ child ∈ children, child.base.context ≠ tag.context)
    (h : ∀ child ∈ children, ∃ result, each.Alone tag m child result) :
    ¬ Stopped each tag m children e m' := by
  rintro ⟨split, composed, -, -, fails⟩
  next n before bases child after =>
  have hchild : child ∈ children := split ▸ List.mem_append_right _ List.mem_cons_self
  obtain ⟨result, halone⟩ := h child hchild
  obtain ⟨base, hserves, -, hfree⟩ := halone.base
  have hbase : (each.appender child tag).Resolves n base :=
    hserves.of_confined composed.extended.toConfined (hrepo child hchild)
  exact hfree ((fails.blocked base hbase).of_extended composed.extended)

/-- Children that can each be composed alone are all composed, whatever others have added. -/
theorem composeChildren_alone {alone : SelectedChild → AppendResult} (children : List SelectedChild)
    (hfresh : ∀ child ∈ children, child.composed = none)
    (hrepo : ∀ child ∈ children, child.base.context ≠ tag.context)
    (h : ∀ child ∈ children, each.Alone tag m child (alone child))
    {w : Run MemoryRegistry} (hw : Extended tag.context m w.registry) :
    (composeChildren (each.append registry tag) children).Ends w
      (fun out m' => out.map Prod.snd = children.map alone ∧ Extended tag.context m m')
      fun _ _ => False := by
  induction children generalizing w with
  | nil => exact Build.Ends.pure ⟨rfl, hw⟩
  | cons child rest ih =>
    have hmem := List.mem_cons_self (a := child) (l := rest)
    unfold composeChildren
    rw [hfresh child hmem]
    refine Build.Ends.bind (Build.Ends.reporting
      (append_alone (hrepo child hmem) (h child hmem) hw)) ?_
    rintro result w1 ⟨rfl, hw1⟩
    have hrest := ih (fun c hc => hfresh c (List.mem_cons_of_mem _ hc))
      (fun c hc => hrepo c (List.mem_cons_of_mem _ hc))
      (fun c hc => h c (List.mem_cons_of_mem _ hc)) hw1
    refine Build.Ends.bind hrest ?_
    rintro others w2 ⟨hothers, hw2⟩
    refine Build.Ends.pure ⟨?_, hw2⟩
    rw [List.map_cons, List.map_cons, hothers]

/-- The new index is pushed after the children, and has their results. -/
theorem push_alone {a : IndexAssembler} {baseRef : String} {results : List AppendResult}
    {w : Run MemoryRegistry}
    (h : (composeChildren (each.append registry tag) a.children).Ends w
      (fun out m' => out.map Prod.snd = results ∧ Extended tag.context m m') fun _ _ => False)
    (hm : m.manifestFailure = none) :
    (a.push registry (each.append registry tag) tag baseRef).Ends w
      (fun out _ => out.results = results) fun _ _ => False := by
  unfold push
  refine Build.Ends.bind h ?_
  rintro composed w1 ⟨hresults, hw1⟩
  dsimp only
  refine Build.Ends.bind (Q := fun _ _ => True) (Build.Ends.call
    ((putManifest_ends tag _ w1.registry).mono (fun _ _ _ => trivial) ?_)) ?_
  · rintro e m' ⟨-, -, hf⟩
    rw [hw1.manifestFailure] at hf
    exact hf hm
  intro _ w2 _
  refine Build.Ends.bind (Q := fun _ _ => True) (Build.Ends.report trivial) ?_
  intro _ w3 _
  exact Build.Ends.pure hresults

/-- Children that can each be composed alone are composed and pushed. -/
theorem exists_push {a : IndexAssembler} {alone : SelectedChild → AppendResult} {w : Run MemoryRegistry}
    (baseRef : String) (hfresh : ∀ child ∈ a.children, child.composed = none)
    (hrepo : ∀ child ∈ a.children, child.base.context ≠ tag.context)
    (halone : ∀ child ∈ a.children, each.Alone tag w.registry child (alone child))
    (hmanifests : w.registry.manifestFailure = none) :
    ∃ out w', a.push registry (each.append registry tag) tag baseRef w = (.ok out, w') ∧
      out.results = a.children.map alone :=
  (push_alone (composeChildren_alone a.children hfresh hrepo halone (Extended.refl _ _))
    hmanifests).exists_ok

/-- Selected children are in the repository of the index. -/
theorem Selected.context_eq {m : MemoryRegistry} {base : Reference} {raw : RawManifest}
    {matcher : PlatformMatcher} {a : IndexAssembler} (h : Selected m base raw matcher a) :
    ∀ child ∈ a.children, child.base.context = base.context := by
  intro child hchild
  obtain ⟨index, -, rfl⟩ := h.assembled
  obtain ⟨e, -, rfl⟩ := List.mem_map.1 hchild
  rfl

/-- If each selected child can be composed alone, by an appender of its own and from the registry as
    it was, then all of them are composed in order, each with the result that it has alone. The new
    index is pushed after that, and has these results. -/
theorem children_independent {base tag : Reference} {raw : RawManifest} {matcher : PlatformMatcher}
    {a : IndexAssembler} {each : LayerAppend} {w w1 : Run MemoryRegistry}
    {alone : SelectedChild → AppendResult} (baseRef : String)
    (hselect : select registry base raw matcher w = (.ok a, w1))
    (hrepo : base.context ≠ tag.context)
    (halone : ∀ child ∈ a.children, each.Alone tag w.registry child (alone child)) :
    (∃ composed w2, composeChildren (each.append registry tag) a.children w1 = (.ok composed, w2) ∧
      composed.map Prod.snd = a.children.map alone) ∧
    ∃ out w3, a.push registry (each.append registry tag) tag baseRef w1 = (.ok out, w3) ∧
      out.results = a.children.map alone := by
  obtain ⟨hw1, hsel⟩ := (select_ends base raw matcher w).ok hselect
  have hcontext : ∀ child ∈ a.children, child.base.context ≠ tag.context :=
    fun child hchild => hsel.context_eq child hchild ▸ hrepo
  have hstart : Extended tag.context w.registry w1.registry := hw1 ▸ Extended.refl _ _
  have hends := composeChildren_alone a.children hsel.fresh hcontext halone hstart
  obtain ⟨child, hchild⟩ := List.exists_mem_of_ne_nil _ hsel.nonempty
  refine ⟨?_, (push_alone hends (halone child hchild).accepts).exists_ok⟩
  obtain ⟨composed, w2, hcompose, hresults, -⟩ := hends.exists_ok
  exact ⟨composed, w2, hcompose, hresults⟩

end IndexAssembler

/-! ## An index of two images -/

namespace TwoChildren

open IndexAssembler

/-- Both children are the image. -/
def twins : MemoryRegistry :=
  { stored with
    manifests := stored.manifests.insert (second.base.context, .ofReference second.base) rawImage }

theorem select_twins :
    (select registry base rawIndex .any { registry := twins }).1 =
      .ok (assembler [first, second]) := by
  unfold select
  rw [decode_index]
  rfl

/-- The image as the base of a child. -/
def twin (child : SelectedChild) : ResolvedBase := { resolved with reference := some child.base }

theorem context_twin : ∀ child ∈ [first, second], child.base.context = first.base.context := by
  decide +kernel

theorem serves_twin : ∀ child ∈ [first, second], twins.Serves child.base (twin child) := by
  intro child hc
  have hstored : twins.manifest? child.base = some rawImage := by
    rcases List.mem_cons.1 hc with rfl | hc
    · rfl
    · rw [List.mem_singleton.1 hc]
      rfl
  obtain ⟨content, hblob, hread⟩ := serves_first.config
  refine ⟨rfl, hstored, rfl, rfl, decode_image, content, ?_, hread⟩
  unfold blob? at hblob ⊢
  rw [context_twin child hc]
  exact hblob

/-- What each child gives alone. -/
def alone (child : SelectedChild) : AppendResult :=
  (appended.appender child result).resultOf (twin child) appended.layers

theorem alone_twin : ∀ child ∈ [first, second],
    appended.Alone result twins child (alone child) := by
  intro child hc
  have hserves := serves_twin child hc
  have hbase : (appended.appender child result).Resolves twins (twin child) := hserves
  have hfree : ¬ ((appended.appender child result).plan (twin child) appended.layers).Blocked
      twins := by
    refine Appender.not_blocked _ appended.layers rfl rfl ?_
    intro s hs l hl
    cases hs
    rw [List.mem_singleton.1 hl]
    unfold hasBlob blob?
    rw [context_twin child hc]
    rfl
  obtain ⟨a, w, h⟩ := Appender.append_of_not_blocked (w := { registry := twins }) rfl hbase hfree
  exact ⟨_, w, a, rfl, h⟩

/-- Both children are composed, with the results that they have alone. -/
theorem children_independent_twins : ∃ w1 composed w2,
    select registry base rawIndex .any { registry := twins } =
      (.ok (assembler [first, second]), w1) ∧
    composeChildren (appended.append registry result) [first, second] w1 = (.ok composed, w2) ∧
    composed.map Prod.snd = [alone first, alone second] := by
  obtain ⟨w1, hselect⟩ := Call.eq_of_fst select_twins
  obtain ⟨⟨composed, w2, hcompose, hresults⟩, -⟩ :=
    children_independent "" hselect (by decide) alone_twin
  exact ⟨w1, composed, w2, hselect, hcompose, hresults⟩

end TwoChildren

end OciCompose
