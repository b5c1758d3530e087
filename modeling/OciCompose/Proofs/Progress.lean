import Mathlib.Algebra.GroupWithZero.Nat
import Mathlib.Algebra.Order.BigOperators.Group.List
import Mathlib.Algebra.Order.Group.Nat
import OciCompose.Proofs.MultiPlatform
import OciCompose.Proofs.Json.Reader

/-
  What a push reports.
  Counting in 64 bits is exact as long as the sum fits (`toNat_foldl_add`). The calls of a push are
  made up to one that fails or is the last (`runSteps_wrote`), so its updates are the `progress` of
  the calls before and one final update. The manifest is never empty and comes last, so everything
  before the final update is unfinished (`bytesOf_lt`). Reporting may drop unfinished updates only
  (`shown_append`). Hence what `Appender.truthful_push` says of updates and events.
-/

namespace OciCompose

/-- An update as it is reported. -/
def Update.event (u : Update) : Event :=
  match u.error with
  | some reason => .failed "push" reason
  | none => .pushProgress u.complete.toNat u.total.toNat

/-- An update that may be held back. -/
def Update.Unfinished (u : Update) : Prop := u.error = none ∧ u.complete ≠ u.total

theorem ImageManifest.bytes_ne_nil (m : ImageManifest) : m.bytes ≠ [] := by
  unfold ImageManifest.bytes Json.Value.bytes Utf8.encode Json.Value.compact
  rw [String.toList_ofList]
  intro h
  obtain ⟨c, hc⟩ := List.exists_mem_of_ne_nil _ (Json.chars_ne_nil m.toJson)
  exact String.utf8EncodeChar_ne_nil (List.flatMap_eq_nil_iff.1 h c hc)

namespace PushPlan

variable {σ : Type}

/-! ## Counting -/

/-- What a plan writes or takes over. -/
def bytes (p : PushPlan) : Nat :=
  (p.baseLayers.map fun l => l.2.toNat).sum + (p.blobs.map fun b => b.2.length).sum +
    p.manifest.bytes.length

/-- What calls complete, however much it is. -/
def bytesOf (steps : List (Call σ Unit × UInt64)) : Nat := (steps.map fun c => c.2.toNat).sum

@[simp] theorem bytesOf_nil : bytesOf ([] : List (Call σ Unit × UInt64)) = 0 := rfl

@[simp] theorem bytesOf_cons (c : Call σ Unit × UInt64) (steps : List (Call σ Unit × UInt64)) :
    bytesOf (c :: steps) = c.2.toNat + bytesOf steps := by
  unfold bytesOf
  rw [List.map_cons, List.sum_cons]

@[simp] theorem bytesOf_append (steps more : List (Call σ Unit × UInt64)) :
    bytesOf (steps ++ more) = bytesOf steps + bytesOf more := by
  unfold bytesOf
  rw [List.map_append, List.sum_append]

theorem bytesOf_take_le (steps : List (Call σ Unit × UInt64)) (k : Nat) :
    bytesOf (steps.take k) ≤ bytesOf steps := by
  rw [← List.take_append_drop k steps, bytesOf_append, List.take_append_drop]
  exact Nat.le_add_right _ _

/-- What sizes add up to. -/
def amount (sizes : List UInt64) : Nat := (sizes.map UInt64.toNat).sum

@[simp] theorem amount_nil : amount [] = 0 := rfl

@[simp] theorem amount_cons (x : UInt64) (sizes : List UInt64) :
    amount (x :: sizes) = x.toNat + amount sizes := by
  unfold amount
  rw [List.map_cons, List.sum_cons]

@[simp] theorem amount_append (sizes more : List UInt64) :
    amount (sizes ++ more) = amount sizes + amount more := by
  unfold amount
  rw [List.map_append, List.sum_append]

theorem bytesOf_eq (steps : List (Call σ Unit × UInt64)) :
    bytesOf steps = amount (steps.map Prod.snd) := by
  unfold bytesOf amount
  rw [List.map_map]
  rfl

/-- A sum in 64 bits is the exact one, truncated. -/
theorem toNat_foldl_add_mod {α : Type} (size : α → UInt64) (l : List α) (complete : UInt64) :
    (l.foldl (fun n x => n + size x) complete).toNat =
      (complete.toNat + (l.map fun x => (size x).toNat).sum) % 2 ^ 64 := by
  induction l generalizing complete with
  | nil => exact (Nat.mod_eq_of_lt complete.toNat_lt).symm
  | cons x l ih =>
    rw [List.foldl_cons, ih, UInt64.toNat_add, Nat.mod_add_mod, List.map_cons, List.sum_cons,
      Nat.add_assoc]

/-- A sum is not truncated if it fits. -/
theorem toNat_foldl_add {α : Type} (size : α → UInt64) (l : List α) {complete : UInt64}
    (h : complete.toNat + (l.map fun x => (size x).toNat).sum < 2 ^ 64) :
    (l.foldl (fun n x => n + size x) complete).toNat =
      complete.toNat + (l.map fun x => (size x).toNat).sum := by
  rw [toNat_foldl_add_mod, Nat.mod_eq_of_lt h]

theorem toNat_sum {α : Type} (size : α → UInt64) (l : List α) :
    (l.foldl (fun n x => n + size x) 0).toNat = amount (l.map size) % 2 ^ 64 := by
  rw [toNat_foldl_add_mod, UInt64.toNat_zero, Nat.zero_add]
  unfold amount
  rw [List.map_map]
  rfl

/-- The count after calls. -/
def counted (complete : UInt64) (steps : List (Call σ Unit × UInt64)) : UInt64 :=
  steps.foldl (fun n c => n + c.2) complete

theorem toNat_counted {steps : List (Call σ Unit × UInt64)} {complete : UInt64}
    (h : complete.toNat + bytesOf steps < 2 ^ 64) :
    (counted complete steps).toNat = complete.toNat + bytesOf steps := toNat_foldl_add Prod.snd steps h

/-! ## Writing -/

/-- The updates of calls that all succeed. -/
def progress (total : UInt64) : UInt64 → List (Call σ Unit × UInt64) → List Update
  | _, [] => []
  | complete, c :: steps =>
    ⟨complete + c.2, total, none⟩ :: progress total (complete + c.2) steps

variable {total complete : UInt64} {steps : List (Call σ Unit × UInt64)}

theorem length_progress : (progress total complete steps).length = steps.length := by
  induction steps generalizing complete with
  | nil => rfl
  | cons c steps ih =>
    unfold progress
    rw [List.length_cons, ih, List.length_cons]

/-- Each update counts the calls up to its own. -/
theorem getElem?_progress {i : Nat} {u : Update} (h : (progress total complete steps)[i]? = some u) :
    u = ⟨counted complete (steps.take (i + 1)), total, none⟩ := by
  induction steps generalizing complete i with
  | nil => cases h
  | cons c steps ih =>
    unfold progress at h
    cases i with
    | zero =>
      cases h
      rfl
    | succ i => exact ih h

/-- An update is progress, or the one behind all of it. -/
theorem getElem?_progress_append {done : List (Call σ Unit × UInt64)} {u v : Update} {i : Nat}
    (hi : (progress total complete done ++ [u])[i]? = some v) :
    (i < done.length ∧ (progress total complete done)[i]? = some v) ∨ (i = done.length ∧ v = u) := by
  rcases Nat.lt_or_ge i done.length with hlt | hge
  · rw [List.getElem?_append_left (by rwa [length_progress])] at hi
    exact .inl ⟨hlt, hi⟩
  · rw [List.getElem?_append_right (by rwa [length_progress]), length_progress,
      List.getElem?_singleton] at hi
    split at hi
    · cases hi
      exact .inr ⟨by omega, rfl⟩
    · cases hi

/-- Updates stay between the count before the calls and the count after them. -/
theorem mem_progress (hfits : complete.toNat + bytesOf steps < 2 ^ 64) {u : Update}
    (hu : u ∈ progress total complete steps) :
    u.error = none ∧ u.total = total ∧ complete ≤ u.complete ∧
      u.complete.toNat ≤ complete.toNat + bytesOf steps := by
  obtain ⟨i, hi⟩ := List.mem_iff_getElem?.1 hu
  obtain rfl := getElem?_progress hi
  have hle := bytesOf_take_le steps (i + 1)
  have hcount : (counted complete (steps.take (i + 1))).toNat =
      complete.toNat + bytesOf (steps.take (i + 1)) := toNat_counted (by omega)
  refine ⟨rfl, rfl, ?_, ?_⟩
  · rw [UInt64.le_iff_toNat_le]
    dsimp only
    omega
  · dsimp only
    omega

theorem pairwise_progress (hfits : complete.toNat + bytesOf steps < 2 ^ 64) :
    (progress total complete steps).Pairwise fun u v => u.complete ≤ v.complete := by
  induction steps generalizing complete with
  | nil => exact List.Pairwise.nil
  | cons c steps ih =>
    rw [bytesOf_cons] at hfits
    have hc : (complete + c.2).toNat = complete.toNat + c.2.toNat := by
      rw [UInt64.toNat_add]
      omega
    have hrest : (complete + c.2).toNat + bytesOf steps < 2 ^ 64 := by omega
    exact List.Pairwise.cons (fun v hv => (mem_progress hrest hv).2.2.1) (ih hrest)

/-- How calls end: some were made, and then one that failed or was the last one. The updates are the
    progress of those before and one for that call. -/
inductive Wrote (total complete : UInt64) (steps : List (Call σ Unit × UInt64)) (s : σ) :
    Outcome × σ → Prop
  | completed (done : List (Call σ Unit × UInt64)) {c : Call σ Unit} {n : UInt64} {s₁ s₂ : σ}
      (split : steps = done ++ [(c, n)])
      (made : Call.sequence (done.map Prod.fst) s = (.ok (), s₁)) (last : c s₁ = (.ok (), s₂)) :
      Wrote total complete steps s
        (⟨.ok (), progress total complete done ++ [⟨counted complete done + n, total, none⟩]⟩, s₂)
  | failed (done : List (Call σ Unit × UInt64)) {rest : List (Call σ Unit × UInt64)}
      {c : Call σ Unit} {n : UInt64} {s₁ s₂ : σ} {e : Error} (split : steps = done ++ (c, n) :: rest)
      (made : Call.sequence (done.map Prod.fst) s = (.ok (), s₁)) (last : c s₁ = (.error e, s₂)) :
      Wrote total complete steps s
        (⟨.error e,
          progress total complete done ++ [⟨counted complete done, total, some e.message⟩]⟩, s₂)

theorem runSteps_wrote (hne : steps ≠ []) (s : σ) :
    Wrote total complete steps s (runSteps total complete steps s) := by
  induction steps generalizing complete s with
  | nil => exact (hne rfl).elim
  | cons step steps ih =>
    obtain ⟨c, n⟩ := step
    unfold runSteps
    rcases hc : c s with ⟨e | _, s₁⟩
    · exact .failed [] rfl rfl hc
    have hmade : ∀ {done : List (Call σ Unit × UInt64)} {s₂ : σ},
        Call.sequence (done.map Prod.fst) s₁ = (.ok (), s₂) →
        Call.sequence (((c, n) :: done).map Prod.fst) s = (.ok (), s₂) := by
      intro done s₂ h
      rw [List.map_cons, Call.sequence, Call.bind_apply]
      dsimp only
      rw [hc]
      exact h
    cases steps with
    | nil => exact .completed [] rfl rfl hc
    | cons step' steps' =>
      dsimp only
      have h : Wrote total (complete + n) (step' :: steps') s₁
          (runSteps total (complete + n) (step' :: steps') s₁) := ih (List.cons_ne_nil _ _) s₁
      generalize runSteps total (complete + n) (step' :: steps') s₁ = o at h
      cases h with
      | completed done split made last =>
        exact .completed ((c, n) :: done) (congrArg (List.cons (c, n)) split) (hmade made) last
      | failed done split made last =>
        exact .failed ((c, n) :: done) (congrArg (List.cons (c, n)) split) (hmade made) last

/-! ## Plans -/

/-- The sizes that a plan counts, in the order of its calls. -/
def sizes (p : PushPlan) : List UInt64 :=
  p.baseLayers.map Prod.snd ++ (p.blobs.map fun b => UInt64.ofNat b.2.length) ++ [p.manifest.size]

/-- Each call completes one of the sizes, if layers are taken over from another repository only. -/
theorem map_snd_steps {p : PushPlan} (h : p.baseRepository = none → p.baseLayers = [])
    (r : Registry σ) : (p.steps r).map Prod.snd = p.sizes := by
  unfold steps sizes
  rw [List.map_append, List.map_append, List.map_map]
  cases hr : p.baseRepository with
  | none =>
    rw [h hr]
    rfl
  | some source =>
    dsimp only
    rw [List.map_map]
    rfl

/-- The total of a plan is what its sizes add up to, truncated. -/
theorem toNat_total_mod (p : PushPlan) : p.total.toNat = amount p.sizes % 2 ^ 64 := by
  have hbase := toNat_sum Prod.snd p.baseLayers
  have hblobs := toNat_sum (fun b : Digest × Bytes => UInt64.ofNat b.2.length) p.blobs
  unfold total sizes
  dsimp only
  rw [UInt64.toNat_add, UInt64.toNat_add, hbase, hblobs, amount_append, amount_append, amount_cons,
    amount_nil]
  omega

/-- A plan that can be counted. Layers are taken over from another repository only, the manifest is
    not empty, and all sizes together fit. -/
structure Sized (p : PushPlan) : Prop where
  base : p.baseRepository = none → p.baseLayers = []
  manifest : p.manifest.bytes ≠ []
  fits : p.bytes < 2 ^ 64

theorem sum_lengths (blobs : List (Digest × Bytes))
    (h : (blobs.map fun b => b.2.length).sum < 2 ^ 64) :
    (blobs.map fun b => (UInt64.ofNat b.2.length).toNat).sum =
      (blobs.map fun b => b.2.length).sum := by
  refine congrArg List.sum (List.map_congr_left fun b hb => UInt64.toNat_ofNat_of_lt' ?_)
  have hle : b.2.length ≤ (blobs.map fun b => b.2.length).sum :=
    List.le_sum_of_mem (List.mem_map.2 ⟨b, hb, rfl⟩)
  exact Nat.lt_of_le_of_lt hle h

namespace Sized

variable {p : PushPlan}

theorem toNat_size (h : p.Sized) : p.manifest.size.toNat = p.manifest.bytes.length := by
  have hfits := h.fits
  unfold bytes at hfits
  exact UInt64.toNat_ofNat_of_lt' (Nat.lt_of_le_of_lt (Nat.le_add_left _ _) hfits)

theorem amount_sizes (h : p.Sized) : amount p.sizes = p.bytes := by
  have hfits := h.fits
  unfold bytes at hfits ⊢
  have hblobs := sum_lengths p.blobs (by omega)
  unfold sizes
  rw [amount_append, amount_append, amount_cons, amount_nil, h.toNat_size, ← hblobs]
  unfold amount
  rw [List.map_map, List.map_map]
  rfl

theorem toNat_total (h : p.Sized) : p.total.toNat = p.bytes := by
  rw [toNat_total_mod, h.amount_sizes, Nat.mod_eq_of_lt h.fits]

/-- The calls of a plan complete its total. -/
theorem bytesOf_steps (h : p.Sized) (r : Registry σ) : bytesOf (p.steps r) = p.bytes := by
  rw [← h.amount_sizes, ← map_snd_steps h.base r, bytesOf_eq]

/-- Something is left to complete until the last call is made. -/
theorem bytesOf_lt (h : p.Sized) {r : Registry σ} {done rest : List (Call σ Unit × UInt64)}
    {c : Call σ Unit × UInt64} (hsplit : p.steps r = done ++ c :: rest) : bytesOf done < p.bytes := by
  have hlast : (c :: rest).getLast? = some (r.putManifest p.target p.manifest, p.manifest.size) := by
    rw [← List.getLast?_append_of_ne_nil done (List.cons_ne_nil c rest), ← hsplit]
    exact List.getLast?_concat
  have hmanifest : p.manifest.size.toNat ≤ bytesOf (c :: rest) :=
    List.le_sum_of_mem (List.mem_map_of_mem (List.mem_of_getLast? hlast))
  have hpos : 0 < p.manifest.bytes.length := List.length_pos_of_ne_nil h.manifest
  rw [h.toNat_size] at hmanifest
  rw [← h.bytesOf_steps r, hsplit, bytesOf_append]
  omega

theorem fits_of_le (h : p.Sized) {done : List (Call σ Unit × UInt64)} (hdone : bytesOf done ≤ p.bytes) :
    (0 : UInt64).toNat + bytesOf done < 2 ^ 64 := by
  rw [UInt64.toNat_zero, Nat.zero_add]
  exact Nat.lt_of_le_of_lt hdone h.fits

/-- The count of calls of a plan is exact. -/
theorem counted_eq (h : p.Sized) {done : List (Call σ Unit × UInt64)} (hdone : bytesOf done ≤ p.bytes) :
    (counted 0 done).toNat = bytesOf done :=
  (toNat_counted (h.fits_of_le hdone)).trans (Nat.zero_add _)

end Sized

/-! ## Updates -/

/-- What comes of writing a plan, with the updates that it sends. -/
def written (p : PushPlan) (r : Registry σ) (s : σ) : Outcome := (runSteps p.total 0 (p.steps r) s).1

theorem result_written (p : PushPlan) (r : Registry σ) (s : σ) :
    (p.written r s).result = (Call.sequence (p.calls r) s).1 := by
  rw [← map_fst_steps]
  exact congrArg Prod.fst (runSteps_eq_sequence p.total 0 (p.steps r) s)

/-- A push ends as the sequence of its calls does, and leaves the registry so. -/
theorem push_eq_sequence (p : PushPlan) (r : Registry σ) (w : Run σ) :
    ((p.push r w).1, (p.push r w).2.registry) = Call.sequence (p.calls r) w.registry := by
  rw [← map_fst_steps]
  exact runSteps_eq_sequence p.total 0 (p.steps r) w.registry

/-- The updates of a plan are the progress of the calls `done`, and `u` for the one after them. That is
    the last call, or it failed. -/
structure Closes (p : PushPlan) (r : Registry σ) (s : σ) (done : List (Call σ Unit × UInt64))
    (u : Update) : Prop where
  updates : (p.written r s).updates = progress p.total 0 done ++ [u]
  before : bytesOf done < p.bytes
  calls : done <+: p.steps r
  made : (Call.sequence (done.map Prod.fst) s).1 = .ok ()
  total : u.total = p.total
  final : (u.error = none ∧ u.complete = p.total ∧ done.length + 1 = (p.steps r).length ∧
      (p.written r s).result = .ok ()) ∨
    ∃ e : Error, u.error = some e.message ∧ u.complete.toNat = bytesOf done ∧
      (p.written r s).result = .error e

theorem Sized.closes {p : PushPlan} (h : p.Sized) (r : Registry σ) (s : σ) :
    ∃ done u, p.Closes r s done u := by
  have hne : p.steps r ≠ [] := List.append_ne_nil_of_right_ne_nil _ (List.cons_ne_nil _ _)
  have hfits := h.fits
  have hwrote : Wrote p.total 0 (p.steps r) s (runSteps p.total 0 (p.steps r) s) :=
    runSteps_wrote hne s
  generalize ho : runSteps p.total 0 (p.steps r) s = o at hwrote
  have hwritten : p.written r s = o.1 := congrArg Prod.fst ho
  cases hwrote with
  | @completed done c n s₁ s₂ split made last =>
    have hbefore := h.bytesOf_lt split
    have hall := h.bytesOf_steps r
    rw [split, bytesOf_append, bytesOf_cons, bytesOf_nil] at hall
    dsimp only at hall
    have hcount := h.counted_eq (Nat.le_of_lt hbefore)
    have htotal : counted 0 done + n = p.total := by
      rw [← UInt64.toNat_inj, UInt64.toNat_add, h.toNat_total]
      omega
    refine ⟨done, _, congrArg Outcome.updates hwritten, hbefore, ⟨_, split.symm⟩,
      congrArg Prod.fst made, rfl, .inl ⟨rfl, htotal, ?_, congrArg Outcome.result hwritten⟩⟩
    rw [split, List.length_append, List.length_singleton]
  | @failed done rest c n s₁ s₂ e split made last =>
    have hbefore := h.bytesOf_lt split
    have hcount := h.counted_eq (Nat.le_of_lt hbefore)
    exact ⟨done, _, congrArg Outcome.updates hwritten, hbefore, ⟨_, split.symm⟩,
      congrArg Prod.fst made, rfl, .inr ⟨e, rfl, hcount, congrArg Outcome.result hwritten⟩⟩

/-- The updates of a push say what is so. -/
structure Truthful (p : PushPlan) (r : Registry σ) (s : σ) : Prop where
  total : ∀ u ∈ (p.written r s).updates, u.total.toNat = p.bytes
  ascending : (p.written r s).updates.Pairwise fun u v => u.complete ≤ v.complete
  bounded : ∀ u ∈ (p.written r s).updates, u.complete ≤ u.total
  /-- Progress counts calls that succeeded. -/
  made : ∀ i u, (p.written r s).updates[i]? = some u → u.error = none →
    (Call.sequence ((p.calls r).take (i + 1)) s).1 = .ok () ∧
      u.complete.toNat = amount (p.sizes.take (i + 1))
  /-- Only the last update can be complete. The blobs are there then, and after them the manifest was
      written. -/
  finished : ∀ i u, (p.written r s).updates[i]? = some u → u.complete = u.total →
    i + 1 = (p.written r s).updates.length ∧ u.error = none ∧
      ∃ s₁ s₂, Call.sequence (p.blobCalls r) s = (.ok (), s₁) ∧
        r.putManifest p.target p.manifest s₁ = (.ok (), s₂)

namespace Closes

variable {p : PushPlan} {r : Registry σ} {s : σ} {done : List (Call σ Unit × UInt64)} {u : Update}

/-- All updates before the final one are unfinished. -/
theorem mem_before (hc : p.Closes r s done u) (h : p.Sized) {v : Update}
    (hv : v ∈ progress p.total 0 done) :
    v.error = none ∧ v.total = p.total ∧ v.complete.toNat ≤ bytesOf done := by
  obtain ⟨herror, htotal, -, hle⟩ := mem_progress (h.fits_of_le (Nat.le_of_lt hc.before)) hv
  rw [UInt64.toNat_zero, Nat.zero_add] at hle
  exact ⟨herror, htotal, hle⟩

/-- The final update counts what was done before it at least. -/
theorem final_bounds (hc : p.Closes r s done u) (h : p.Sized) :
    bytesOf done ≤ u.complete.toNat ∧ u.complete.toNat ≤ p.bytes := by
  have hbefore := hc.before
  rcases hc.final with ⟨-, hcomplete, -⟩ | ⟨e, -, hcomplete, -⟩
  · rw [hcomplete, h.toNat_total]
    omega
  · omega

/-- An update is progress, or the final one behind all of it. -/
theorem getElem?_updates (hc : p.Closes r s done u) {i : Nat} {v : Update}
    (hi : (p.written r s).updates[i]? = some v) :
    (i < done.length ∧ (progress p.total 0 done)[i]? = some v) ∨ (i = done.length ∧ v = u) := by
  rw [hc.updates] at hi
  exact getElem?_progress_append hi

theorem total_eq (hc : p.Closes r s done u) (h : p.Sized) {v : Update}
    (hv : v ∈ (p.written r s).updates) : v.total = p.total := by
  rw [hc.updates] at hv
  rcases List.mem_append.1 hv with hv | hv
  · exact (hc.mem_before h hv).2.1
  · rw [List.mem_singleton.1 hv, hc.total]

theorem ascending (hc : p.Closes r s done u) (h : p.Sized) :
    (p.written r s).updates.Pairwise fun u v => u.complete ≤ v.complete := by
  rw [hc.updates, List.pairwise_append]
  refine ⟨pairwise_progress (h.fits_of_le (Nat.le_of_lt hc.before)), List.pairwise_singleton _ _,
    fun v hv w hw => ?_⟩
  rw [List.mem_singleton.1 hw, UInt64.le_iff_toNat_le]
  exact (hc.mem_before h hv).2.2.trans (hc.final_bounds h).1

theorem complete_le (hc : p.Closes r s done u) (h : p.Sized) {v : Update}
    (hv : v ∈ (p.written r s).updates) : v.complete.toNat ≤ p.bytes := by
  rw [hc.updates] at hv
  rcases List.mem_append.1 hv with hv | hv
  · exact (hc.mem_before h hv).2.2.trans (Nat.le_of_lt hc.before)
  · rw [List.mem_singleton.1 hv]
    exact (hc.final_bounds h).2

theorem made_of_getElem? (hc : p.Closes r s done u) (h : p.Sized) {i : Nat} {v : Update}
    (hi : (p.written r s).updates[i]? = some v) (herror : v.error = none) :
    (Call.sequence ((p.calls r).take (i + 1)) s).1 = .ok () ∧
      v.complete.toNat = amount (p.sizes.take (i + 1)) := by
  rw [← map_fst_steps, ← map_snd_steps h.base r, ← List.map_take, ← List.map_take, ← bytesOf_eq]
  rcases hc.getElem?_updates hi with ⟨hlt, hi⟩ | ⟨rfl, rfl⟩
  · obtain ⟨rest, hrest⟩ := hc.calls
    rw [← hrest, List.take_append_of_le_length hlt, List.map_take, getElem?_progress hi]
    have hle := (bytesOf_take_le done (i + 1)).trans (Nat.le_of_lt hc.before)
    exact ⟨Call.sequence_take hc.made (i + 1), h.counted_eq hle⟩
  · rcases hc.final with ⟨-, hcomplete, hall, hok⟩ | ⟨e, he, -⟩
    · rw [hall, List.take_length, map_fst_steps, ← result_written, h.bytesOf_steps r, hcomplete,
        h.toNat_total]
      exact ⟨hok, rfl⟩
    · rw [he] at herror
      cases herror

theorem finished_of_getElem? (hc : p.Closes r s done u) (h : p.Sized) {i : Nat} {v : Update}
    (hi : (p.written r s).updates[i]? = some v) (hv : v.complete = v.total) :
    i + 1 = (p.written r s).updates.length ∧ v.error = none ∧
      ∃ s₁ s₂, Call.sequence (p.blobCalls r) s = (.ok (), s₁) ∧
        r.putManifest p.target p.manifest s₁ = (.ok (), s₂) := by
  have hbefore := hc.before
  have hcomplete : v.complete.toNat = p.bytes := by
    rw [hv, hc.total_eq h (List.mem_of_getElem? hi), h.toNat_total]
  rcases hc.getElem?_updates hi with ⟨-, hi⟩ | ⟨rfl, rfl⟩
  · have hle := (hc.mem_before h (List.mem_of_getElem? hi)).2.2
    omega
  rcases hc.final with ⟨herror, -, -, hok⟩ | ⟨e, -, hdone, -⟩
  · rw [hc.updates, List.length_append, length_progress, List.length_singleton]
    rw [result_written] at hok
    exact ⟨rfl, herror, Call.sequence_concat hok⟩
  · omega

end Closes

theorem Sized.truthful {p : PushPlan} (h : p.Sized) (r : Registry σ) (s : σ) : p.Truthful r s := by
  obtain ⟨done, u, hc⟩ := h.closes r s
  refine ⟨fun v hv => ?_, hc.ascending h, fun v hv => ?_, fun _ _ => hc.made_of_getElem? h,
    fun _ _ => hc.finished_of_getElem? h⟩
  · rw [hc.total_eq h hv, h.toNat_total]
  · rw [UInt64.le_iff_toNat_le, hc.total_eq h hv, h.toNat_total]
    exact hc.complete_le h hv

/-! ## Reports -/

/-- Only unfinished updates are dropped. -/
theorem shown_append (clock : Nat → Nat) {us : List Update} {u : Update}
    (hus : ∀ v ∈ us, v.Unfinished) (hu : ¬ u.Unfinished) (readings next : Nat) :
    ∃ es, es.Sublist (us.map Update.event) ∧
      (shown clock readings next (us ++ [u])).1 = es ++ [u.event] := by
  induction us generalizing readings next with
  | nil =>
    refine ⟨[], List.Sublist.refl _, ?_⟩
    rw [List.nil_append]
    unfold shown Update.event
    cases herror : u.error with
    | some reason => rfl
    | none =>
      have hcomplete : u.complete = u.total := by
        by_contra hne
        exact hu ⟨herror, hne⟩
      dsimp only
      rw [if_pos hcomplete]
      rfl
  | cons v us ih =>
    obtain ⟨herror, hne⟩ := hus v List.mem_cons_self
    have hrest : ∀ v ∈ us, v.Unfinished := fun v hv => hus v (List.mem_cons_of_mem _ hv)
    have hevent : v.event = .pushProgress v.complete.toNat v.total.toNat := by
      unfold Update.event
      rw [herror]
    rw [List.cons_append]
    unfold shown
    rw [herror]
    dsimp only
    rw [if_neg hne]
    split
    · obtain ⟨es, hes, hshown⟩ := ih hrest (readings + 2) (clock (readings + 1) + reportInterval)
      refine ⟨v.event :: es, hes.cons_cons _, ?_⟩
      rw [hshown, hevent]
      rfl
    · obtain ⟨es, hes, hshown⟩ := ih hrest (readings + 1) next
      exact ⟨es, hes.cons _, hshown⟩

/-- How a push ends, as it is reported. -/
def ending (p : PushPlan) : Except Error Unit → Event
  | .ok () => .pushProgress p.bytes p.bytes
  | .error e => .failed "push" e.message

/-- A push reports updates in order: progress below the total, and at last that it is complete or the
    error that it returns. -/
structure Reports (p : PushPlan) (r : Registry σ) (w : Run σ) : Prop where
  result : ((p.push r w).1, (p.push r w).2.registry) = Call.sequence (p.calls r) w.registry
  events : ∃ es, (p.push r w).2.events = w.events ++ (es ++ [p.ending (p.push r w).1]) ∧
    (es ++ [p.ending (p.push r w).1]).Sublist ((p.written r w.registry).updates.map Update.event) ∧
    ∀ e ∈ es, ∃ n < p.bytes, e = .pushProgress n p.bytes

theorem Sized.reports {p : PushPlan} (h : p.Sized) (r : Registry σ) (w : Run σ) : p.Reports r w := by
  obtain ⟨done, u, hc⟩ := h.closes r w.registry
  have hresult : (p.push r w).1 = (p.written r w.registry).result := rfl
  have hbefore : ∀ v ∈ progress p.total 0 done, v.complete.toNat < p.bytes ∧
      v.event = .pushProgress v.complete.toNat p.bytes := by
    intro v hv
    obtain ⟨herror, htotal, hle⟩ := hc.mem_before h hv
    refine ⟨Nat.lt_of_le_of_lt hle hc.before, ?_⟩
    unfold Update.event
    rw [herror, htotal, h.toNat_total]
  have hunfinished : ∀ v ∈ progress p.total 0 done, v.Unfinished := by
    intro v hv
    obtain ⟨herror, htotal, -⟩ := hc.mem_before h hv
    refine ⟨herror, fun hcomplete => ?_⟩
    have hlt := (hbefore v hv).1
    rw [hcomplete, htotal, h.toNat_total] at hlt
    exact Nat.lt_irrefl _ hlt
  have hfinal : ¬ u.Unfinished ∧ u.event = p.ending (p.push r w).1 := by
    unfold Update.event
    rw [hresult]
    rcases hc.final with ⟨herror, hcomplete, -, hok⟩ | ⟨e, herror, -, hfails⟩
    · rw [herror, hcomplete, hc.total, h.toNat_total, hok]
      exact ⟨fun hu => hu.2 (hcomplete.trans hc.total.symm), rfl⟩
    · rw [herror, hfails]
      refine ⟨fun hu => ?_, rfl⟩
      rw [hu.1] at herror
      cases herror
  obtain ⟨hfinal, hevent⟩ := hfinal
  obtain ⟨es, hes, hshown⟩ :=
    shown_append w.clock hunfinished hfinal (w.readings + 1) (w.clock w.readings + reportInterval)
  rw [hevent] at hshown
  refine ⟨p.push_eq_sequence r w, es, ?_, ?_, fun e he => ?_⟩
  · rw [← hshown, ← hc.updates]
    rfl
  · rw [hc.updates, List.map_append, List.map_singleton, hevent]
    exact hes.append (List.Sublist.refl _)
  · obtain ⟨v, hv, rfl⟩ := List.mem_map.1 (hes.subset he)
    exact ⟨v.complete.toNat, hbefore v hv⟩

end PushPlan

namespace Appender

open PushPlan

/-- Layers are taken over from another repository only. -/
theorem baseLayers_eq_nil {a : Appender} {base : ResolvedBase} {layers : List Layer}
    (h : (a.plan base layers).baseRepository = none) : (a.plan base layers).baseLayers = [] := by
  unfold plan planOf at h ⊢
  dsimp only at h ⊢
  rw [h]

theorem sized_plan {a : Appender} {base : ResolvedBase} {layers : List Layer}
    (hfits : (a.plan base layers).bytes < 2 ^ 64) : (a.plan base layers).Sized where
  base := baseLayers_eq_nil
  manifest := by
    rw [manifest_plan, bytes_rawOf]
    exact ImageManifest.bytes_ne_nil _
  fits := hfits

/-- The push of a result whose sizes fit 64 bits is truthful on every registry and under every clock:
    the count ascends up to the total, which is reached only after the manifest was written. What is
    reported ends with that, or with the one error that the push and the appender return. -/
theorem truthful_push {σ : Type} (a : Appender) (base : ResolvedBase) (layers : List Layer)
    (r : Registry σ) (w : Run σ) (hfits : (a.plan base layers).bytes < 2 ^ 64) :
    (a.plan base layers).Truthful r w.registry ∧ (a.plan base layers).Reports r w ∧
      ∀ e w', (a.plan base layers).push r w = (.error e, w') →
        a.compose r base layers w = (.error e, w') := by
  refine ⟨(sized_plan hfits).truthful r w.registry, (sized_plan hfits).reports r w, ?_⟩
  intro e w' hpush
  rw [compose_apply, hpush]

end Appender

namespace TwoChildren

/-- An image of another repository is the base. -/
def across : Appender := { base := some first.base, tag := result }

/-- Its layer is taken over before the upload of the config is refused. -/
def refusing : Run MemoryRegistry := { registry := { stored with blobFailure := some "denied" } }

theorem truthful_push_across : (across.plan resolved []).bytes < 2 ^ 64 ∧
    (across.plan resolved []).Truthful MemoryRegistry.registry refusing.registry ∧
    (across.plan resolved []).Reports MemoryRegistry.registry refusing ∧
    ∀ e w', (across.plan resolved []).push MemoryRegistry.registry refusing = (.error e, w') →
      across.compose MemoryRegistry.registry resolved [] refusing = (.error e, w') := by
  have hfits : (across.plan resolved []).bytes < 2 ^ 64 := by decide +kernel
  exact ⟨hfits, across.truthful_push resolved [] MemoryRegistry.registry refusing hfits⟩

/-- The failure counts the layer that was taken over. -/
example : ((across.plan resolved []).written MemoryRegistry.registry refusing.registry).updates.map
    Update.complete = [3, 3] := by decide +kernel

end TwoChildren

end OciCompose
