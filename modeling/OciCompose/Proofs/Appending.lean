import OciCompose.Proofs.ReadBack

/-
  Appending in two steps.
  An image that was pushed is served as a base, just as it was composed (`serves_of_append`). Hence
  `append_append`: layers may as well be appended in two steps as in one.
-/

namespace OciCompose

open Json MemoryRegistry

namespace Appender

theorem mediaType_rawOf (a : Appender) (base : ResolvedBase) (layers : List Layer) :
    (a.rawOf base layers).mediaType = base.raw.mediaType := by
  unfold rawOf ResolvedBase.mediaType
  dsimp only

/-- A result as a base. -/
def asBase (a : Appender) (base : ResolvedBase) (layers : List Layer) : ResolvedBase where
  reference := some (a.tag.withDigest (a.rawOf base layers).digest)
  raw := a.rawOf base layers
  manifest := a.imageOf base layers
  config := a.configOf base layers
  kind := base.kind

/-- Nothing but layers is appended. -/
structure Plain (a : Appender) : Prop where
  envs : a.envs = []
  provenance : a.provenance = none

variable {a b c : Appender} {m : MemoryRegistry} {base : ResolvedBase}

theorem Resolves.isImage (h : a.Resolves m base) :
    base.kind = base.raw.kind ∧ base.kind.isImage = true := by
  unfold Resolves at h
  split at h
  · subst h
    exact ⟨rfl, rfl⟩
  · exact ⟨h.kind, h.isImage⟩

/-- What was appended to a base is itself served as a base, in the form in which it was composed. -/
theorem serves_of_append {a' : Appender} {layers : List Layer} {w w' : Run MemoryRegistry}
    {result : AppendResult} (hbase : a.Resolves w.registry base) (hnow : a.UpToDate w.registry)
    (hmanifest : ∀ v ∈ base.manifest.passed, v.Whole)
    (hconfig : ∀ v ∈ base.config.passed, v.Whole)
    (h : a.append registry layers w = (.ok result, a', w')) :
    w'.registry.Serves (a.tag.withDigest result.hash) (a.asBase base layers) := by
  obtain ⟨rfl, hfound, hblob⟩ := stored_of_append hbase hnow h
  obtain ⟨content, hreads⟩ := hbase.reads
  have hkind : (a.rawOf base layers).kind = base.kind := by
    rw [hbase.isImage.1]
    unfold RawManifest.kind
    rw [mediaType_rawOf]
  rw [hash_resultOf]
  refine ⟨rfl, hfound, hkind.symm, hbase.isImage.2, ?_, (a.configOf base layers).bytes, ?_,
    (keeps_configOf a layers (hreads.config_keeps hconfig)).ofBytes?⟩
  · unfold asBase
    dsimp only
    rw [bytes_rawOf]
    exact (keeps_imageOf a layers (hreads.keeps hmanifest)).ofBytes?
  · unfold asBase
    dsimp only
    rw [(extends_imageOf a base layers).config]
    exact hblob

/-! ## Two steps and one -/

section Steps

variable (ha : a.Plain) (hb : b.Plain) (hc : c.Plain) (base : ResolvedBase) (xs ys : List Layer)
include ha hb hc

theorem configOf_asBase :
    b.configOf (a.asBase base xs) ys = c.configOf base (xs ++ ys) := by
  unfold asBase configOf
  simp only [ha.envs, hb.envs, hc.envs, List.isEmpty_nil, if_true, List.map_append,
    List.append_assoc]

theorem imageOf_asBase : b.imageOf (a.asBase base xs) ys = c.imageOf base (xs ++ ys) := by
  unfold imageOf
  rw [configOf_asBase ha hb hc]
  unfold asBase imageOf manifestOf ResolvedBase.layerMediaType
  simp only [ha.provenance, hb.provenance, hc.provenance, List.map_append, List.append_assoc]

theorem rawOf_asBase : b.rawOf (a.asBase base xs) ys = c.rawOf base (xs ++ ys) := by
  have hmediaType : (a.asBase base xs).mediaType = base.mediaType := by
    unfold asBase ResolvedBase.mediaType
    dsimp only
    rw [mediaType_rawOf]
  unfold rawOf
  rw [imageOf_asBase ha hb hc, hmediaType]

end Steps

/-- Layers that are appended to the pushed result of an append, pinned by its digest, make the same
    manifest and the same config as if all layers were appended to the base at once. -/
theorem append_append {a' b' c' : Appender} {xs ys : List Layer} {w w1 w2 v v' : Run MemoryRegistry}
    {r1 r2 r3 : AppendResult} (ha : a.Plain) (hb : b.Plain) (hc : c.Plain)
    (hbase : a.Resolves w.registry base) (hbase' : c.Resolves v.registry base)
    (hpinned : b.base = some (a.tag.withDigest r1.hash)) (haNow : a.UpToDate w.registry)
    (hbNow : b.UpToDate w1.registry) (hcNow : c.UpToDate v.registry)
    (hmanifest : ∀ x ∈ base.manifest.passed, x.Whole) (hconfig : ∀ x ∈ base.config.passed, x.Whole)
    (h1 : a.append registry xs w = (.ok r1, a', w1))
    (h2 : b.append registry ys w1 = (.ok r2, b', w2))
    (h3 : c.append registry (xs ++ ys) v = (.ok r3, c', v')) :
    r2.hash = r3.hash ∧ r2.configDigest = r3.configDigest ∧
    ∃ (raw : RawManifest) (content : Bytes),
      w2.registry.manifest? (b.tag.withDigest r2.hash) = some raw ∧
      v'.registry.manifest? (c.tag.withDigest r3.hash) = some raw ∧
      w2.registry.blob? b.tag r2.configDigest = some content ∧
      v'.registry.blob? c.tag r3.configDigest = some content := by
  have hserved := serves_of_append hbase haNow hmanifest hconfig h1
  have hresolved : b.Resolves w1.registry (a.asBase base xs) := by
    unfold Resolves
    rw [hpinned]
    exact hserved
  obtain ⟨rfl, hfound, hblob⟩ := stored_of_append hresolved hbNow h2
  obtain ⟨rfl, hfound', hblob'⟩ := stored_of_append hbase' hcNow h3
  rw [rawOf_asBase ha hb hc] at hfound
  rw [configOf_asBase ha hb hc] at hblob
  rw [hash_resultOf, hash_resultOf, configDigest_resultOf, configDigest_resultOf,
    rawOf_asBase ha hb hc, configOf_asBase ha hb hc]
  exact ⟨rfl, rfl, _, _, hfound, hfound', hblob, hblob'⟩

end Appender

/-! ## Two layers on an image -/

namespace TwoChildren

open Appender

/-- One appender onto the first child, and one onto another base, for the same result. -/
def onto (base : Reference) : Appender := { base := some base, tag := result }

theorem plain_onto (base : Reference) : (onto base).Plain := ⟨rfl, rfl⟩

theorem state_onto (base : Reference) : (onto base).state = none := rfl

theorem upToDate_onto (base : Reference) (m : MemoryRegistry) : (onto base).UpToDate m := by
  intro b hb
  rw [state_onto] at hb
  cases hb

theorem resolves_first : (onto first.base).Resolves stored resolved := serves_first

theorem append_onto_first (layers : List Layer) : ∃ r a w,
    (onto first.base).append registry layers start = (.ok r, a, w) := by
  have hfree : ¬ ((onto first.base).plan resolved layers).Blocked start.registry := by
    refine not_blocked _ layers rfl rfl ?_
    intro r hr l hl
    cases hr
    rw [List.mem_singleton.1 hl]
    rfl
  obtain ⟨a, w, h⟩ := append_of_not_blocked (state_onto first.base) resolves_first hfree
  exact ⟨_, a, w, h⟩

/-- The result is in the repository that is written to, so its layers are there. -/
theorem append_onto_result {layers : List Layer} {r : AppendResult} {a : Appender}
    {w : Run MemoryRegistry} (h : (onto first.base).append registry layers start = (.ok r, a, w))
    (more : List Layer) : ∃ r' a' w',
    (onto (result.withDigest r.hash)).append registry more w = (.ok r', a', w') := by
  have hmanifest : ∀ v ∈ resolved.manifest.passed, ∀ n ∈ v.numbers, n.Whole := by decide +kernel
  have hconfig : ∀ v ∈ resolved.config.passed, ∀ n ∈ v.numbers, n.Whole := by decide +kernel
  have hserves := serves_of_append resolves_first (upToDate_onto _ _) hmanifest hconfig h
  obtain ⟨b, -, -, hpushed, -⟩ := (run_starts_from _ layers start).ok (run_of_append h)
  obtain ⟨n, hadded, hpublished⟩ := hpushed.published
  have hblobs : w.registry.blobFailure = none := by
    rw [hpublished]
    exact hadded.blobFailure
  have hmanifests : w.registry.manifestFailure = none := by
    rw [hpublished]
    exact hadded.manifestFailure
  have hfree : ¬ ((onto (result.withDigest r.hash)).plan
      ((onto first.base).asBase resolved layers) more).Blocked w.registry := by
    refine not_blocked_of_elsewhere _ more hblobs hmanifests ?_
    intro s hs helsewhere
    cases hs
    cases helsewhere
  obtain ⟨a', w', h'⟩ := append_of_not_blocked (state_onto (result.withDigest r.hash)) hserves hfree
  exact ⟨_, a', w', h'⟩

/-- Two layers are appended one after the other, and both at once. -/
theorem append_append_first : ∃ (r1 r2 r3 : AppendResult) (a b c : Appender)
    (w1 w2 v : Run MemoryRegistry),
    (onto first.base).append registry [oneByte] start = (.ok r1, a, w1) ∧
    (onto (result.withDigest r1.hash)).append registry [twoBytes] w1 = (.ok r2, b, w2) ∧
    (onto first.base).append registry [oneByte, twoBytes] start = (.ok r3, c, v) ∧
    r2.hash = r3.hash ∧
    w2.registry.manifest? (result.withDigest r2.hash) =
      v.registry.manifest? (result.withDigest r3.hash) := by
  obtain ⟨r1, a, w1, h1⟩ := append_onto_first [oneByte]
  obtain ⟨r2, b, w2, h2⟩ := append_onto_result h1 [twoBytes]
  obtain ⟨r3, c, v, h3⟩ := append_onto_first [oneByte, twoBytes]
  have hmanifest : ∀ x ∈ resolved.manifest.passed, ∀ n ∈ x.numbers, n.Whole := by decide +kernel
  have hconfig : ∀ x ∈ resolved.config.passed, ∀ n ∈ x.numbers, n.Whole := by decide +kernel
  obtain ⟨hhash, -, raw, content, hraw, hraw', -⟩ :=
    append_append (plain_onto _) (plain_onto _) (plain_onto _) resolves_first resolves_first rfl
      (upToDate_onto _ _) (upToDate_onto _ _) (upToDate_onto _ _) hmanifest hconfig h1 h2 h3
  exact ⟨r1, r2, r3, a, b, c, w1, w2, v, h1, h2, h3, hhash, hraw.trans hraw'.symm⟩

end TwoChildren

end OciCompose
