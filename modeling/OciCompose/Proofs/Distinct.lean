import OciCompose.Proofs.Independence
import OciCompose.Proofs.Origin

/-
  Which platforms the children of a composed index have.
  Whatever the registry and whatever is appended, they are those of the eligible entries of the base
  index, in order (`push_platforms`). An entry is not left out because an earlier one has its
  platform. So no two children share a platform if and only if no two eligible entries do
  (`onePerPlatform_push_iff`), and an index that lists an image twice is composed to one that does.
-/

namespace OciCompose

open MemoryRegistry

/-- No two entries have the same platform tuple. -/
def OnePerPlatform (entries : List Descriptor) : Prop :=
  (entries.map Descriptor.platform).Pairwise fun o o' =>
    ∀ p ∈ o, ∀ q ∈ o', p.sameTuple q = false

instance : DecidablePred OnePerPlatform := fun _ => inferInstanceAs (Decidable (List.Pairwise _ _))

theorem OnePerPlatform.congr {ds es : List Descriptor}
    (h : ds.map Descriptor.platform = es.map Descriptor.platform) :
    OnePerPlatform ds ↔ OnePerPlatform es := by
  unfold OnePerPlatform
  rw [h]

namespace IndexAssembler

variable {σ : Type} {r : Registry σ} {append : SelectedChild → Build σ AppendResult}
  {base tag : Reference} {raw : RawManifest} {m : PlatformMatcher} {a : IndexAssembler}
  {baseRef : String}

/-- The children of the index that is pushed have the platforms of the eligible entries of the base
    index, in order. So no two of them share a platform if and only if no two of these entries do. -/
theorem onePerPlatform_push_iff {out : AssembledIndex} {w w1 w2 : Run σ}
    (hselect : select r base raw m w = (.ok a, w1))
    (hpush : a.push r append tag baseRef w1 = (.ok out, w2)) :
    ∃ index s, Json.Decode.ofBytes? ImageIndex.ofJson raw.bytes = some index ∧
      r.putManifest tag out.index.snapshot s = (.ok (), w2.registry) ∧
      out.index.manifests.map Descriptor.platform =
        (index.eligible m).map Descriptor.platform ∧
      (OnePerPlatform out.index.manifests ↔ OnePerPlatform (index.eligible m)) := by
  obtain ⟨index, hdecode, hcanvas, hchildren⟩ := (select_platforms base raw m w).ok hselect
  obtain ⟨⟨s, hput⟩, hentries, -⟩ :=
    (push_platforms a hcanvas (exists_platform hchildren) append tag baseRef w1).ok hpush
  have hplatforms := hentries.trans hchildren
  exact ⟨index, s, hdecode, hput, hplatforms, OnePerPlatform.congr hplatforms⟩

end IndexAssembler

namespace TwoChildren

open IndexAssembler

/-- The children of the index have a platform of their own each, and so have those of the new one. -/
theorem onePerPlatform_push_iff_twins : ∃ out w1 w2,
    select registry base rawIndex .any { registry := twins } =
      (.ok (assembler [first, second]), w1) ∧
    (assembler [first, second]).push registry (appended.append registry result) result "" w1 =
      (.ok out, w2) ∧
    OnePerPlatform out.index.manifests := by
  obtain ⟨w1, hselect⟩ := Call.eq_of_fst select_twins
  have hw1 : w1.registry = twins := registry_of_select hselect
  have halone : ∀ child ∈ (assembler [first, second]).children,
      appended.Alone result w1.registry child (alone child) := by
    rw [hw1]
    exact alone_twin
  obtain ⟨out, w2, hpush, -⟩ :=
    exists_push "" (by decide) (by decide +kernel) halone (by rw [hw1]; rfl)
  obtain ⟨index', s, hdecode, -, -, hone⟩ := onePerPlatform_push_iff hselect hpush
  rw [decode_index] at hdecode
  cases hdecode
  exact ⟨out, w1, w2, hselect, hpush, hone.2 (by decide)⟩

/-! ## An image that is listed twice -/

/-- The index with its first entry twice, in the place of both. -/
def doubled : ImageIndex :=
  { index with manifests := index.manifests.take 1 ++ index.manifests.take 1 }

def rawDoubled : RawManifest := ⟨MediaType.ociIndex, doubled.bytes⟩

theorem decode_doubled :
    Json.Decode.ofBytes? ImageIndex.ofJson rawDoubled.bytes = some doubled := by
  unfold rawDoubled ImageIndex.bytes
  rw [Json.Decode.ofBytes?_bytes]
  decide +kernel

/-- The first child once more. -/
def again : SelectedChild := { first with position := 1 }

def doubledAssembler : IndexAssembler :=
  { assembler [first, again] with raw := rawDoubled }

theorem select_doubled :
    (select registry base rawDoubled .any start).1 = .ok doubledAssembler := by
  unfold select
  rw [decode_doubled]
  rfl

/-- Appending does not tell the two children apart. -/
theorem alone_doubled : ∃ alone, ∀ child ∈ [first, again],
    nothing.Alone result stored child alone := by
  obtain ⟨alone, h⟩ : ∃ alone, nothing.Alone result stored first alone := by
    refine LayerAppend.alone_of_serves serves_first rfl rfl fun l hl => ?_
    rw [List.mem_singleton.1 hl]
    rfl
  refine ⟨alone, fun child hchild => ?_⟩
  rcases List.mem_cons.1 hchild with rfl | hchild
  · exact h
  · rw [List.mem_singleton.1 hchild]
    exact h

/-- The children of a composed index may share a platform. -/
theorem not_onePerPlatform : ¬ ∀ (base tag : Reference) (raw : RawManifest) (m : PlatformMatcher)
    (each : LayerAppend) (baseRef : String) (a : IndexAssembler) (out : AssembledIndex)
    (w w1 w2 : Run MemoryRegistry), select registry base raw m w = (.ok a, w1) →
      a.push registry (each.append registry tag) tag baseRef w1 = (.ok out, w2) →
      OnePerPlatform out.index.manifests := by
  intro h
  obtain ⟨w1, hselect⟩ := Call.eq_of_fst select_doubled
  have hw1 : w1.registry = stored := registry_of_select hselect
  obtain ⟨alone, halone⟩ : ∃ alone, ∀ child ∈ doubledAssembler.children,
      nothing.Alone result w1.registry child alone := by
    rw [hw1]
    exact alone_doubled
  obtain ⟨out, w2, hpush, -⟩ :=
    exists_push "" (by decide) (by decide +kernel) halone (by rw [hw1]; rfl)
  have hchildren : doubledAssembler.children.map SelectedChild.platform =
      (doubled.eligible .any).map Descriptor.platform := by rfl
  obtain ⟨-, hplatforms, -⟩ :=
    (push_platforms _ rfl (exists_platform hchildren) _ _ _ w1).ok hpush
  have hone := (OnePerPlatform.congr (hplatforms.trans hchildren)).1
    (h _ _ _ _ _ _ _ _ _ _ _ hselect hpush)
  exact absurd hone (by decide)

end TwoChildren

end OciCompose
