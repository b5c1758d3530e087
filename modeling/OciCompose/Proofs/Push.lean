import OciCompose.Push
import OciCompose.Proofs.Registry.Copy

/-
  What a push writes to a registry in memory.
  The progress it reports aside, a push is a sequence of calls (`runSteps_eq_sequence`), each of which
  adds one blob, and the manifest last. Hence `push_ends`: a push that succeeds is `Pushed`, so that
  every blob of its plan was there before the manifest was; one that fails was `Blocked` and has
  added blobs at most. A plan that is blocked fails (`Blocked.push_fails`).
-/

namespace OciCompose

namespace Call

variable {σ : Type}

/-- The calls in order, up to the first that fails. -/
def sequence : List (Call σ Unit) → Call σ Unit
  | [] => pure ()
  | c :: cs => do
    c
    sequence cs

theorem sequence_append (cs ds : List (Call σ Unit)) (s : σ) :
    sequence (cs ++ ds) s = (sequence cs >>= fun _ => sequence ds) s := by
  induction cs generalizing s with
  | nil => rfl
  | cons c cs ih =>
    rw [bind_apply]
    simp only [List.cons_append, sequence, bind_apply]
    rcases c s with ⟨_ | _, s'⟩
    · rfl
    · dsimp only
      rw [ih, bind_apply]

/-- Where all calls succeed, the first ones do. -/
theorem sequence_take {calls : List (Call σ Unit)} {s : σ} (h : (sequence calls s).1 = .ok ())
    (k : Nat) : (sequence (calls.take k) s).1 = .ok () := by
  rw [← List.take_append_drop k calls, sequence_append, bind_apply] at h
  rcases hk : sequence (calls.take k) s with ⟨e | _, s'⟩
  · rw [hk] at h
    cases h
  · rfl

/-- Where all calls succeed, the last one does where the others lead to. -/
theorem sequence_concat {calls : List (Call σ Unit)} {c : Call σ Unit} {s : σ}
    (h : (sequence (calls ++ [c]) s).1 = .ok ()) :
    ∃ s₁ s₂, sequence calls s = (.ok (), s₁) ∧ c s₁ = (.ok (), s₂) := by
  rw [sequence_append, bind_apply] at h
  rcases hcalls : sequence calls s with ⟨e | _, s₁⟩
  · rw [hcalls] at h
    cases h
  rw [hcalls] at h
  simp only [sequence, bind_apply] at h
  rcases hc : c s₁ with ⟨e | _, s₂⟩
  · rw [hc] at h
    cases h
  · exact ⟨s₁, s₂, rfl, hc⟩

/-- Calls that all keep a condition fail under it if one of them does. -/
theorem sequence_fails {σ : Type} {P : σ → Prop} {calls : List (Call σ Unit)} {c : Call σ Unit}
    (hc : c ∈ calls) (hfails : ∀ s, P s → c.Ends s (fun _ _ => False) fun _ _ => True)
    (hkeeps : ∀ d ∈ calls, ∀ s, P s → d.Ends s (fun _ s' => P s') fun _ _ => True) {s : σ}
    (hs : P s) : (sequence calls).Ends s (fun _ _ => False) fun _ _ => True := by
  induction calls generalizing s with
  | nil => cases hc
  | cons d ds ih =>
    simp only [sequence]
    rcases List.mem_cons.1 hc with rfl | hc
    · exact (hfails s hs).bind fun _ _ h => h.elim
    · refine (hkeeps d List.mem_cons_self s hs).bind fun _ s' hs' => ?_
      exact ih hc (fun e he => hkeeps e (List.mem_cons_of_mem _ he)) hs'

end Call

namespace PushPlan

open MemoryRegistry

variable {σ : Type}

theorem runSteps_eq_sequence (total complete : UInt64) (steps : List (Call σ Unit × UInt64)) (s : σ) :
    ((runSteps total complete steps s).1.result, (runSteps total complete steps s).2) =
      Call.sequence (steps.map Prod.fst) s := by
  induction steps generalizing complete s with
  | nil => rfl
  | cons step steps ih =>
    obtain ⟨c, n⟩ := step
    simp only [runSteps, List.map_cons, Call.sequence, Call.bind_apply]
    rcases c s with ⟨_ | _, s'⟩
    · rfl
    · exact ih (complete + n) s'

/-! ## The calls of a push -/

/-- The layers of a base in another repository are taken over from there. -/
def copies (p : PushPlan) (r : Registry σ) : List (Call σ Unit) :=
  match p.baseRepository with
  | some source => p.baseLayers.map fun l => r.copyBlob source p.target l.1
  | none => []

/-- The calls that make the blobs of a plan available: copies, and then uploads. -/
def blobCalls (p : PushPlan) (r : Registry σ) : List (Call σ Unit) :=
  p.copies r ++ p.blobs.map fun b => r.putBlob p.target b.1 b.2

/-- The calls of a push, of which the one for the manifest is the last. -/
def calls (p : PushPlan) (r : Registry σ) : List (Call σ Unit) :=
  p.blobCalls r ++ [r.putManifest p.target p.manifest]

theorem map_fst_steps (p : PushPlan) (r : Registry σ) : (p.steps r).map Prod.fst = p.calls r := by
  unfold steps calls blobCalls copies
  cases p.baseRepository <;> simp [Function.comp_def]

theorem mem_copies {p : PushPlan} {r : Registry σ} {c : Call σ Unit} (h : c ∈ p.copies r) :
    ∃ source, p.baseRepository = some source ∧
      ∃ l ∈ p.baseLayers, c = r.copyBlob source p.target l.1 := by
  unfold copies at h
  split at h
  · next source hs =>
    obtain ⟨l, hl, rfl⟩ := List.mem_map.1 h
    exact ⟨source, hs, l, hl, rfl⟩
  · cases h

/-- A push ends as the sequence of its calls does. -/
theorem ends_push_iff (p : PushPlan) (r : Registry σ) (w : Run σ) (P : Unit → σ → Prop)
    (F : Error → σ → Prop) :
    (p.push r).Ends w P F ↔ (Call.sequence (p.calls r)).Ends w.registry P F := by
  unfold Build.Ends Call.Ends push
  rw [← map_fst_steps, ← runSteps_eq_sequence p.total 0]
  dsimp only
  rcases (runSteps p.total 0 (p.steps r) w.registry).1.result with _ | _ <;> rfl

/-! ## What the calls do -/

/-- Calls that each make a blob available in a repository make all of them available. If none fails
    but for a reason that added blobs do not bring about, that reason was there before. -/
theorem sequence_ends {target : Reference} {reason : MemoryRegistry → Prop}
    (hr : ∀ m n, BlobsAdded target.context m n → reason n → reason m)
    (calls : List (Call MemoryRegistry Unit × Digest))
    (h : ∀ c ∈ calls, ∀ m, c.1.Ends m
      (fun _ m' => BlobsAdded target.context m m' ∧ m'.hasBlob target c.2 = true)
      fun e m' => m' = m ∧ e.isPrePush = false ∧ reason m) (m : MemoryRegistry) :
    (Call.sequence (calls.map Prod.fst)).Ends m
      (fun _ m' => BlobsAdded target.context m m' ∧ ∀ c ∈ calls, m'.hasBlob target c.2 = true)
      fun e m' => BlobsAdded target.context m m' ∧ e.isPrePush = false ∧ reason m := by
  induction calls generalizing m with
  | nil => exact Call.Ends.pure ⟨BlobsAdded.refl _ _, fun _ h => nomatch h⟩
  | cons c cs ih =>
    simp only [List.map_cons, Call.sequence]
    have hc := h c List.mem_cons_self m
    refine Call.Ends.bind (hc.mono (fun _ _ hd => hd) ?_) ?_
    · intro e m' hf
      obtain ⟨rfl, he⟩ := hf
      exact ⟨BlobsAdded.refl _ _, he⟩
    · intro _ n hn
      obtain ⟨hn, hd⟩ := hn
      refine (ih (fun x hx => h x (List.mem_cons_of_mem _ hx)) n).mono ?_ ?_
      · intro _ k hk
        obtain ⟨hk, hx⟩ := hk
        refine ⟨hn.trans hk, fun x hm => ?_⟩
        rcases List.mem_cons.1 hm with rfl | hm
        · exact hk.kept _ _ hd
        · exact hx x hm
      · intro e k hk
        obtain ⟨hk, he, hreason⟩ := hk
        exact ⟨hn.trans hk, he, hr m n hn hreason⟩

/-- What keeps a plan from being carried out. -/
inductive Blocked (p : PushPlan) (m : MemoryRegistry) : Prop
  | blobs (h : m.blobFailure ≠ none)
  | manifests (h : m.manifestFailure ≠ none)
  | wrongDigest {b : Digest × Bytes} (hb : b ∈ p.blobs) (h : Digest.ofBytes b.2 ≠ b.1)
  | missing {source : Reference} {l : Digest × UInt64} (hs : p.baseRepository = some source)
      (hl : l ∈ p.baseLayers) (ht : m.hasBlob p.target l.1 = false)
      (h : m.hasBlob source l.1 = false)

theorem Blocked.of_extended {p : PushPlan} {repo : String} {m n : MemoryRegistry}
    (h : Extended repo m n) (hn : Blocked p n) : Blocked p m := by
  have hkept : ∀ r d, n.hasBlob r d = false → m.hasBlob r d = false := by
    intro r d hd
    cases hm : m.hasBlob r d with
    | false => rfl
    | true => rw [h.keptBlobs r d hm] at hd; cases hd
  cases hn with
  | blobs hf => exact .blobs (h.blobFailure ▸ hf)
  | manifests hf => exact .manifests (h.manifestFailure ▸ hf)
  | wrongDigest hb hd => exact .wrongDigest hb hd
  | missing hs hl ht hm => exact .missing hs hl (hkept _ _ ht) (hkept _ _ hm)

theorem Blocked.of_blobsAdded {p : PushPlan} {repo : String} {m n : MemoryRegistry}
    (h : BlobsAdded repo m n) (hn : Blocked p n) : Blocked p m := hn.of_extended h.extended

/-- A plan was carried out: its blobs were made available first, then its manifest was written. -/
inductive Pushed (p : PushPlan) (m : MemoryRegistry) : MemoryRegistry → Prop
  | intro {n : MemoryRegistry} (added : BlobsAdded p.target.context m n)
      (base : ∀ source, p.baseRepository = some source →
        ∀ l ∈ p.baseLayers, n.hasBlob p.target l.1 = true)
      (blobs : ∀ b ∈ p.blobs, n.hasBlob p.target b.1 = true) :
      Pushed p m (n.publish p.target p.manifest)

theorem Pushed.published {p : PushPlan} {m m' : MemoryRegistry} (h : p.Pushed m m') :
    ∃ n, BlobsAdded p.target.context m n ∧ m' = n.publish p.target p.manifest := by
  cases h with
  | intro added _ _ => exact ⟨_, added, rfl⟩

/-- The calls that make the blobs of a plan available, each with its blob. -/
def supplies (p : PushPlan) : List (Call MemoryRegistry Unit × Digest) :=
  (match p.baseRepository with
    | some source => p.baseLayers.map fun l => (registry.copyBlob source p.target l.1, l.1)
    | none => []) ++
  p.blobs.map fun b => (registry.putBlob p.target b.1 b.2, b.1)

theorem map_fst_supplies (p : PushPlan) : p.supplies.map Prod.fst = p.blobCalls registry := by
  unfold supplies blobCalls copies
  cases p.baseRepository <;> simp [Function.comp_def]

theorem supplies_ends (p : PushPlan) (c : Call MemoryRegistry Unit × Digest) (hc : c ∈ p.supplies)
    (m : MemoryRegistry) :
    c.1.Ends m (fun _ m' => BlobsAdded p.target.context m m' ∧ m'.hasBlob p.target c.2 = true)
      fun e m' => m' = m ∧ e.isPrePush = false ∧ p.Blocked m := by
  unfold supplies at hc
  rcases List.mem_append.1 hc with hc | hc
  · cases hs : p.baseRepository with
    | none => rw [hs] at hc; cases hc
    | some source =>
      rw [hs] at hc
      obtain ⟨l, hl, rfl⟩ := List.mem_map.1 hc
      refine (copyBlob_ends source p.target l.1 m).mono (fun _ _ h => h) ?_
      intro e m' h
      exact ⟨h.1, h.2.1, .missing hs hl h.2.2.1 h.2.2.2⟩
  · obtain ⟨b, hb, rfl⟩ := List.mem_map.1 hc
    refine (putBlob_ends p.target b.1 b.2 m).mono ?_ ?_
    · rintro _ _ ⟨rfl, -, -⟩
      exact ⟨BlobsAdded.upload m p.target b.1 b.2, hasBlob_upload m p.target b.1 b.2⟩
    intro e m' h
    exact ⟨h.1, h.2.1, h.2.2.elim .blobs (.wrongDigest hb)⟩

/-- A push fails only if its plan is blocked. -/
theorem push_ends (p : PushPlan) (w : Run MemoryRegistry) :
    (p.push registry).Ends w (fun _ m' => Pushed p w.registry m')
      fun e m' => BlobsAdded p.target.context w.registry m' ∧ e.isPrePush = false ∧
        p.Blocked w.registry := by
  rw [ends_push_iff, calls, ← map_fst_supplies]
  unfold Call.Ends
  rw [Call.sequence_append]
  refine (sequence_ends (fun _ _ => Blocked.of_blobsAdded) p.supplies p.supplies_ends
    w.registry).bind ?_
  intro _ n h
  obtain ⟨hn, hb⟩ := h
  simp only [Call.sequence]
  refine Call.Ends.bind ((putManifest_ends p.target p.manifest n).mono (fun _ _ h => h) ?_) ?_
  · intro e m' h
    obtain ⟨rfl, he, hf⟩ := h
    exact ⟨hn, he, .of_blobsAdded hn (.manifests hf)⟩
  · intro _ m' h
    subst h
    refine Call.Ends.pure (Pushed.intro hn ?_ ?_)
    · intro source hs l hl
      refine hb (registry.copyBlob source p.target l.1, l.1) (List.mem_append_left _ ?_)
      rw [hs]
      exact List.mem_map_of_mem hl
    · intro b hm
      exact hb (registry.putBlob p.target b.1 b.2, b.1)
        (List.mem_append_right _ (List.mem_map_of_mem hm))

/-- What neither blobs nor the manifest of a plan change is kept by each of its calls. -/
theorem calls_keep (p : PushPlan) {P : MemoryRegistry → Prop}
    (hadded : ∀ m n, BlobsAdded p.target.context m n → P m → P n)
    (hpublished : ∀ m, P m → P (m.publish p.target p.manifest)) :
    ∀ c ∈ p.calls registry, ∀ m, P m → c.Ends m (fun _ m' => P m') fun _ _ => True := by
  intro c hc m hm
  rcases List.mem_append.1 hc with hc | hc
  · rw [← map_fst_supplies] at hc
    obtain ⟨d, hd, rfl⟩ := List.mem_map.1 hc
    exact (p.supplies_ends d hd m).mono (fun _ n hn => hadded m n hn.1 hm) fun _ _ _ => trivial
  · rw [List.mem_singleton.1 hc]
    refine (putManifest_ends p.target p.manifest m).mono ?_ fun _ _ _ => trivial
    rintro _ _ rfl
    exact hpublished m hm

theorem putBlob_mem_calls {p : PushPlan} {b : Digest × Bytes} (hb : b ∈ p.blobs) :
    registry.putBlob p.target b.1 b.2 ∈ p.calls registry :=
  List.mem_append_left _ (List.mem_append_right _ (List.mem_map_of_mem hb))

/-- Copies fail if one of them is of a blob that is nowhere, as those before it do not bring it. -/
theorem copies_fail {source target : Reference} {layers : List (Digest × UInt64)}
    {l : Digest × UInt64} (hl : l ∈ layers) {m : MemoryRegistry}
    (ht : m.hasBlob target l.1 = false) (hs : m.hasBlob source l.1 = false) :
    (Call.sequence (layers.map fun l => registry.copyBlob source target l.1)).Ends m
      (fun _ _ => False) fun _ _ => True := by
  refine Call.sequence_fails
    (P := fun m => m.hasBlob target l.1 = false ∧ m.hasBlob source l.1 = false)
    (List.mem_map_of_mem hl) (fun _ hm => copyBlob_fails hm.1 hm.2) ?_ ⟨ht, hs⟩
  intro c hc m hm
  obtain ⟨x, -, rfl⟩ := List.mem_map.1 hc
  by_cases hx : l.1 = x.1
  · rw [← hx]
    exact (copyBlob_fails hm.1 hm.2).mono (fun _ _ hfalse => hfalse.elim) fun _ _ h => h
  · exact ((copyBlob_ends_other hx hm.1).and (copyBlob_ends_other hx hm.2)).mono
      (fun _ _ h => h) fun _ _ _ => trivial

/-- A plan that is blocked is not carried out. -/
theorem Blocked.push_fails {p : PushPlan} {w : Run MemoryRegistry} (hblobs : p.blobs ≠ [])
    (h : p.Blocked w.registry) :
    (p.push registry).Ends w (fun _ _ => False) fun _ _ => True := by
  rw [ends_push_iff]
  cases h with
  | blobs h =>
    obtain ⟨b, hb⟩ := List.exists_mem_of_ne_nil _ hblobs
    have hkept := p.calls_keep (P := fun m => m.blobFailure ≠ none)
      (fun _ _ hn hm => by rwa [hn.blobFailure]) fun _ hm => hm
    exact Call.sequence_fails (putBlob_mem_calls hb) (fun _ hm => putBlob_fails (.inl hm)) hkept h
  | manifests h =>
    have hkept := p.calls_keep (P := fun m => m.manifestFailure ≠ none)
      (fun _ _ hn hm => by rwa [hn.manifestFailure]) fun _ hm => hm
    exact Call.sequence_fails (List.mem_append_right _ (List.mem_singleton.2 rfl))
      (fun _ hm => putManifest_fails hm) hkept h
  | @wrongDigest b hb h =>
    have hkept := p.calls_keep (P := fun _ => True) (fun _ _ _ _ => trivial) fun _ _ => trivial
    exact Call.sequence_fails (putBlob_mem_calls hb) (fun _ _ => putBlob_fails (.inr h)) hkept trivial
  | missing hs hl ht h =>
    -- the blob is looked for before others are uploaded, so none of these can stand in for it
    rw [calls, blobCalls, copies, hs, List.append_assoc]
    unfold Call.Ends
    rw [Call.sequence_append]
    exact (copies_fail hl ht h).bind fun _ _ hfalse => hfalse.elim

end PushPlan

end OciCompose
