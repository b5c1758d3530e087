import OciCompose.Proofs.Progress
import OciCompose.Proofs.ReadBack

/-
  Sums of sizes that do not fit 64 bits.
  The sizes of layers that are taken over are those that the manifest of the base declares, which can
  be any (`decode_flooded`). `Exact` says of a running sum that none of its additions overflows, which
  is so exactly if the whole sum fits (`exact_iff`). The total of a plan and the count of its calls add
  up the same sizes, so they overflow together (`sums`); what is left of either is the sum modulo
  `2 ^ 64`, and a push can look complete before it is.
-/

namespace OciCompose

namespace PushPlan

variable {σ : Type}

/-- No addition of a running sum overflows. -/
def Exact : UInt64 → List UInt64 → Prop
  | _, [] => True
  | n, x :: sizes => n.toNat + x.toNat < 2 ^ 64 ∧ Exact (n + x) sizes

instance Exact.decidable : (n : UInt64) → (sizes : List UInt64) → Decidable (Exact n sizes)
  | _, [] => isTrue trivial
  | n, x :: sizes =>
    haveI := Exact.decidable (n + x) sizes
    inferInstanceAs (Decidable (_ ∧ _))

/-- No addition overflows exactly if the whole sum fits 64 bits. -/
theorem exact_iff {n : UInt64} {sizes : List UInt64} :
    Exact n sizes ↔ n.toNat + amount sizes < 2 ^ 64 := by
  induction sizes generalizing n with
  | nil => exact iff_of_true trivial n.toNat_lt
  | cons x sizes ih =>
    rw [Exact, ih, amount_cons]
    constructor
    · rintro ⟨hx, hrest⟩
      rw [UInt64.toNat_add, Nat.mod_eq_of_lt hx] at hrest
      omega
    · intro h
      have hx : n.toNat + x.toNat < 2 ^ 64 := by omega
      rw [UInt64.toNat_add, Nat.mod_eq_of_lt hx]
      exact ⟨hx, by omega⟩

theorem exact_zero_iff {sizes : List UInt64} : Exact 0 sizes ↔ amount sizes < 2 ^ 64 := by
  rw [exact_iff, UInt64.toNat_zero, Nat.zero_add]

/-- No addition of the total overflows: neither those of the layers that are taken over, nor those of
    the blobs, nor the two that join them and the manifest. -/
def TotalExact (p : PushPlan) : Prop :=
  Exact 0 (p.baseLayers.map Prod.snd) ∧ Exact 0 (p.blobs.map fun b => UInt64.ofNat b.2.length) ∧
    Exact (p.baseLayers.foldl (fun n l => n + l.2) 0)
      [p.blobs.foldl (fun n b => n + UInt64.ofNat b.2.length) 0, p.manifest.size]

instance (p : PushPlan) : Decidable p.TotalExact := inferInstanceAs (Decidable (_ ∧ _ ∧ _))

theorem totalExact_iff (p : PushPlan) : p.TotalExact ↔ amount p.sizes < 2 ^ 64 := by
  have hbase := toNat_sum Prod.snd p.baseLayers
  have hblobs := toNat_sum (fun b : Digest × Bytes => UInt64.ofNat b.2.length) p.blobs
  unfold TotalExact sizes
  rw [exact_zero_iff, exact_zero_iff, exact_iff, hbase, amount_append, amount_append, amount_cons,
    amount_cons, amount_nil, hblobs]
  omega

theorem toNat_counted_zero (steps : List (Call σ Unit × UInt64)) :
    (counted 0 steps).toNat = amount (steps.map Prod.snd) % 2 ^ 64 := toNat_sum Prod.snd steps

end PushPlan

/-- How many calls an update counts, as the `i`th one: the one that it is about, unless that failed, and
    all before. -/
def Update.calls (u : Update) (i : Nat) : Nat := if u.error = none then i + 1 else i

namespace PushPlan

variable {σ : Type}

/-- Each update counts in 64 bits, and has the total of the plan. -/
theorem getElem?_written {p : PushPlan} {r : Registry σ} {s : σ} {i : Nat} {u : Update}
    (hi : (p.written r s).updates[i]? = some u) :
    u.total = p.total ∧ u.complete = counted 0 ((p.steps r).take (u.calls i)) := by
  have hwrote : Wrote p.total 0 (p.steps r) s (runSteps p.total 0 (p.steps r) s) :=
    runSteps_wrote (List.append_ne_nil_of_right_ne_nil _ (List.cons_ne_nil _ _)) s
  have hbefore : ∀ {done rest : List (Call σ Unit × UInt64)}, p.steps r = done ++ rest →
      i < done.length → (progress p.total 0 done)[i]? = some u →
      u.total = p.total ∧ u.complete = counted 0 ((p.steps r).take (u.calls i)) := by
    intro done rest split hlt hi
    have hu := getElem?_progress hi
    have hcalls : u.calls i = i + 1 := if_pos (by rw [hu])
    rw [hcalls, split, List.take_append_of_le_length hlt, hu]
    exact ⟨rfl, rfl⟩
  unfold written at hi
  generalize runSteps p.total 0 (p.steps r) s = o at hi hwrote
  cases hwrote with
  | completed done split =>
    rcases getElem?_progress_append hi with ⟨hlt, hi⟩ | ⟨rfl, rfl⟩
    · exact hbefore split hlt hi
    · unfold Update.calls counted
      rw [if_pos rfl, split, List.take_of_length_le (by rw [List.length_append]; rfl),
        List.foldl_append]
      exact ⟨rfl, rfl⟩
  | failed done split =>
    rcases getElem?_progress_append hi with ⟨hlt, hi⟩ | ⟨rfl, rfl⟩
    · exact hbefore split hlt hi
    · unfold Update.calls
      rw [if_neg (Option.some_ne_none _), split, List.take_left]
      exact ⟨rfl, rfl⟩

/-- What sums of sizes come to, which a plan counts. -/
structure Sums (p : PushPlan) (sizes : List UInt64) : Prop where
  /-- The total is the sum of the sizes truncated to 64 bits. No addition overflows exactly if the sum
      fits them. -/
  total : p.total.toNat = amount sizes % 2 ^ 64
  totalExact : p.TotalExact ↔ amount sizes < 2 ^ 64
  /-- So it is with the count, after any number of calls. -/
  countExact : ∀ {σ : Type} (r : Registry σ) (k : Nat),
    Exact 0 (((p.steps r).take k).map Prod.snd) ↔ amount (sizes.take k) < 2 ^ 64
  counted : ∀ {σ : Type} (r : Registry σ) (s : σ) (i : Nat) (u : Update),
    (p.written r s).updates[i]? = some u →
      u.total = p.total ∧ u.complete.toNat = amount (sizes.take (u.calls i)) % 2 ^ 64
  /-- An update looks finished if what is left is nothing in 64 bits. -/
  finished : ∀ {σ : Type} (r : Registry σ) (s : σ) (i : Nat) (u : Update),
    (p.written r s).updates[i]? = some u →
      (u.complete = u.total ↔ 2 ^ 64 ∣ amount (sizes.drop (u.calls i)))

theorem sums {p : PushPlan} (h : p.baseRepository = none → p.baseLayers = []) : p.Sums p.sizes := by
  have hcounted : ∀ {σ : Type} (r : Registry σ) (s : σ) (i : Nat) (u : Update),
      (p.written r s).updates[i]? = some u →
        u.total = p.total ∧ u.complete.toNat = amount (p.sizes.take (u.calls i)) % 2 ^ 64 := by
    intro σ r s i u hi
    obtain ⟨htotal, hcomplete⟩ := getElem?_written hi
    rw [hcomplete, toNat_counted_zero, List.map_take, map_snd_steps h]
    exact ⟨htotal, rfl⟩
  refine ⟨p.toNat_total_mod, p.totalExact_iff, fun r k => ?_, hcounted, fun r s i u hi => ?_⟩
  · rw [List.map_take, map_snd_steps h, exact_zero_iff]
  · obtain ⟨htotal, hcomplete⟩ := hcounted r s i u hi
    have hsplit : amount p.sizes =
        amount (p.sizes.take (u.calls i)) + amount (p.sizes.drop (u.calls i)) := by
      rw [← amount_append, List.take_append_drop]
    rw [← UInt64.toNat_inj, hcomplete, htotal, p.toNat_total_mod, hsplit]
    omega

end PushPlan

namespace Appender

open PushPlan

/-- What an append to a base in another repository counts: the sizes that the manifest of the base
    declares, those of the layers, and those of the config and the manifest that are written. The
    sums are exact if all that fits 64 bits, and only then. -/
theorem sums_plan (a : Appender) {base : ResolvedBase} {b : Reference} (hb : base.reference = some b)
    (helsewhere : b.sameRepository a.tag = false) (layers : List Layer) :
    (a.plan base layers).Sums
      (base.manifest.layers.map Descriptor.size ++ layers.map Layer.size ++
        [UInt64.ofNat (a.configOf base layers).bytes.length, (a.rawOf base layers).size]) := by
  have hbase : (a.plan base layers).baseLayers.map Prod.snd =
      base.manifest.layers.map Descriptor.size := by
    rw [baseLayers_plan (baseRepository_plan.2 ⟨hb, helsewhere⟩), List.map_map]
    rfl
  have hblobs : ((a.plan base layers).blobs.map fun b => UInt64.ofNat b.2.length) =
      layers.map Layer.size ++ [UInt64.ofNat (a.configOf base layers).bytes.length] := by
    have hlayer : (fun b : Digest × Bytes => UInt64.ofNat b.2.length) ∘
        (fun l : Layer => (l.digest, l.blob)) = Layer.size := rfl
    rw [blobs_plan, List.map_append, List.map_map, List.map_singleton, hlayer]
  have hsizes : (a.plan base layers).sizes =
      base.manifest.layers.map Descriptor.size ++ layers.map Layer.size ++
        [UInt64.ofNat (a.configOf base layers).bytes.length, (a.rawOf base layers).size] := by
    unfold sizes
    rw [hbase, hblobs, manifest_plan, ← List.append_assoc, List.append_assoc, List.singleton_append]
  rw [← hsizes]
  exact PushPlan.sums baseLayers_eq_nil

end Appender

/-! ## Declared sizes -/

namespace TwoChildren

open PushPlan

/-- An image that declares layers of these sizes. -/
def declaring (sizes : List UInt64) : ImageManifest :=
  { image with layers := sizes.map fun n => { image.config with size := n } }

/-- The image of another repository as a base, with layers of these sizes. -/
def flooded (sizes : List UInt64) : ResolvedBase :=
  { resolved with
    raw := ⟨MediaType.ociManifest, (declaring sizes).bytes⟩
    manifest := declaring sizes }

/-- Any sizes are accepted. -/
theorem decode_flooded (sizes : List UInt64) :
    Json.Decode.ofBytes? ImageManifest.ofJson (flooded sizes).raw.bytes =
      some (flooded sizes).manifest := by
  unfold flooded
  dsimp only
  refine ImageManifest.Keeps.ofBytes? ⟨Json.Passes.empty _ _, fun d hd => ?_, Json.Passes.empty _ _⟩
  obtain ⟨n, -, rfl⟩ := List.mem_map.1 hd
  exact Json.Passes.empty _ _

/-- The second size and all that is counted behind it come to nothing in 64 bits. -/
def wrapping : List UInt64 := [1000, 18446744073709551280]

/-- The sums of an accepted manifest overflow, so that the first update looks finished. -/
theorem sums_plan_flooded :
    Json.Decode.ofBytes? ImageManifest.ofJson (flooded wrapping).raw.bytes =
      some (flooded wrapping).manifest ∧
    (flooded wrapping).reference = some first.base ∧
    first.base.sameRepository across.tag = false ∧
    (across.plan (flooded wrapping) []).Sums
      ((flooded wrapping).manifest.layers.map Descriptor.size ++ ([] : List Layer).map Layer.size ++
        [UInt64.ofNat (across.configOf (flooded wrapping) []).bytes.length,
          (across.rawOf (flooded wrapping) []).size]) ∧
    ¬ (across.plan (flooded wrapping) []).TotalExact ∧
    ¬ Exact 0 (((across.plan (flooded wrapping) []).steps MemoryRegistry.registry).map Prod.snd) ∧
    (((across.plan (flooded wrapping) []).written MemoryRegistry.registry stored).updates.map
      fun u => (u.complete, u.total)).head? = some (1000, 1000) := by
  have helsewhere : first.base.sameRepository across.tag = false := by decide +kernel
  exact ⟨decode_flooded wrapping, rfl, helsewhere, across.sums_plan rfl helsewhere [],
    by decide +kernel, by decide +kernel, by decide +kernel⟩

end TwoChildren

end OciCompose
