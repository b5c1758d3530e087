import OciCompose.Proofs.Build
import OciCompose.Proofs.Projection

/-
  What a registry gives and takes in a build.
  `noting` is the registry with a record beside its state of all that it gave or took; builds go the
  same way on it (`append_noting`). `Grows` says how a record goes on, and which manifests were uploaded
  meanwhile: by a push its own, after the last of its blobs (`push_noting`), else none (`Call.Quiet`).
-/

namespace OciCompose

open Json

variable {σ α : Type}

/-! ## Transfers -/

/-- Something that a registry gave, or took. -/
inductive Transfer where
  | manifestFrom (r : Reference) (raw : RawManifest)
  | blobFrom (repo : Reference) (d : Digest) (content : Bytes)
  | blobTo (repo : Reference) (d : Digest) (content : Bytes)
  | manifestTo (target : Reference) (raw : RawManifest)

def Transfer.upload? : Transfer → Option RawManifest
  | .manifestTo _ raw => some raw
  | _ => none

/-- The manifests that were taken, in order. -/
def uploads (log : List Transfer) : List RawManifest := log.filterMap Transfer.upload?

/-- A call that notes what it transfers if it succeeds. -/
def Call.noting (c : Call σ α) (note : α → List Transfer) : Call (σ × List Transfer) α := fun s =>
  match c s.1 with
  | (.ok a, s') => (.ok a, s', s.2 ++ note a)
  | (.error e, s') => (.error e, s', s.2)

/-- The registry with a record of transfers beside its state. -/
def Registry.noting (r : Registry σ) : Registry (σ × List Transfer) where
  getManifest ref := (r.getManifest ref).noting fun raw => [.manifestFrom ref raw]
  getBlob repo d := (r.getBlob repo d).noting fun content => [.blobFrom repo d content]
  blobExists repo d := (r.blobExists repo d).noting fun _ => []
  putBlob repo d data := (r.putBlob repo d data).noting fun _ => [.blobTo repo d data]
  mountBlob source target d := (r.mountBlob source target d).noting fun _ => []
  putManifest target raw := (r.putManifest target raw).noting fun _ => [.manifestTo target raw]

theorem Call.noting_projects (c : Call σ α) (note : α → List Transfer) :
    Call.Projects Prod.fst (c.noting note) c := by
  intro s
  unfold Call.noting
  rcases c s.1 with ⟨e | a, s'⟩ <;> rfl

theorem Registry.noting_projects (r : Registry σ) : r.noting.Projects Prod.fst r where
  getManifest _ := Call.noting_projects _ _
  getBlob _ _ := Call.noting_projects _ _
  blobExists _ _ := Call.noting_projects _ _
  putBlob _ _ _ := Call.noting_projects _ _
  mountBlob _ _ _ := Call.noting_projects _ _
  putManifest _ _ := Call.noting_projects _ _

/-- A run with nothing transferred yet. -/
def Run.noting (w : Run σ) : Run (σ × List Transfer) where
  registry := (w.registry, [])
  events := w.events
  clock := w.clock
  readings := w.readings

/-- What a build transfers, in order. -/
def Build.transfers (r : Registry σ) (c : BuildConfig) (layers : List Layer) (w : Run σ) :
    List Transfer :=
  (append r.noting c layers w.noting).2.registry.2

/-- A build that succeeds does so with a record, too. -/
theorem Build.append_noting {r : Registry σ} {c : BuildConfig} {layers : List Layer} {w w' : Run σ}
    {artifact : Artifact} (h : append r c layers w = (.ok artifact, w')) :
    ∃ v, append r.noting c layers w.noting = (.ok artifact, v) ∧
      v.registry.2 = transfers r c layers w := by
  have hproject : append r c layers w = _ := append_projects r.noting_projects c layers w.noting
  rw [h] at hproject
  exact ⟨_, Prod.ext (Prod.ext_iff.1 hproject).1.symm rfl, rfl⟩

/-! ## How a record grows -/

/-- A record goes on from another, with some manifests uploaded meanwhile. -/
structure Grows (images : List RawManifest) (log log' : List Transfer) : Prop where
  isPrefix : log <+: log'
  uploads : uploads log' = uploads log ++ images

namespace Grows

theorem refl (log : List Transfer) : Grows [] log log := ⟨List.prefix_rfl, (List.append_nil _).symm⟩

theorem trans {images images' : List RawManifest} {log log' log'' : List Transfer}
    (h : Grows images log log') (h' : Grows images' log' log'') :
    Grows (images ++ images') log log'' :=
  ⟨h.isPrefix.trans h'.isPrefix, by rw [h'.uploads, h.uploads, List.append_assoc]⟩

theorem quiet {images : List RawManifest} {log log' log'' : List Transfer} (h : Grows images log log')
    (h' : Grows [] log' log'') : Grows images log log'' := by
  have hboth := h.trans h'
  rwa [List.append_nil] at hboth

theorem append (log more : List Transfer) : Grows (OciCompose.uploads more) log (log ++ more) :=
  ⟨List.prefix_append _ _, List.filterMap_append⟩

theorem mem {images : List RawManifest} {log log' : List Transfer} (h : Grows images log log')
    {t : Transfer} (ht : t ∈ log) : t ∈ log' := h.isPrefix.subset ht

end Grows

variable {r : Registry σ}

theorem noting_ends (c : Call σ α) (note : α → List Transfer) (s : σ × List Transfer) :
    (c.noting note).Ends s (fun a s' => s'.2 = s.2 ++ note a) fun _ _ => True := by
  unfold Call.Ends Call.noting
  rcases c s.1 with ⟨e | a, s'⟩
  · trivial
  · rfl

/-- A call uploads no manifest. -/
def Call.Quiet (c : Call (σ × List Transfer) α) : Prop :=
  ∀ s, c.Ends s (fun _ s' => Grows [] s.2 s'.2) fun _ _ => True

theorem Call.quiet_noting (c : Call σ α) {note : α → List Transfer}
    (h : ∀ a, uploads (note a) = []) : (c.noting note).Quiet := by
  intro s
  refine (noting_ends c note s).mono (fun a s' hs => ?_) fun _ _ h => h
  have hgrows := Grows.append s.2 (note a)
  rwa [h a, ← hs] at hgrows

theorem Call.Quiet.bind {β : Type} {c : Call (σ × List Transfer) α}
    {f : α → Call (σ × List Transfer) β} (h : c.Quiet) (hf : ∀ a, (f a).Quiet) : (c >>= f).Quiet := by
  intro s
  refine Call.Ends.bind (h s) fun a s1 h1 => ?_
  exact (hf a s1).mono (fun _ _ h2 => h1.quiet h2) fun _ _ h => h

theorem Call.quiet_pure (a : α) : (pure a : Call (σ × List Transfer) α).Quiet :=
  fun s => Call.Ends.pure (Grows.refl s.2)

theorem quiet_putBlob (repo : Reference) (d : Digest) (data : Bytes) :
    (r.noting.putBlob repo d data).Quiet := Call.quiet_noting _ fun _ => rfl

theorem quiet_copyBlob (source target : Reference) (d : Digest) :
    (r.noting.copyBlob source target d).Quiet := by
  unfold Registry.copyBlob
  refine Call.Quiet.bind (Call.quiet_noting _ fun _ => rfl) fun there => ?_
  split
  · exact Call.quiet_pure ()
  refine Call.Quiet.bind (Call.quiet_noting _ fun _ => rfl) fun mounted => ?_
  split
  · exact Call.quiet_pure ()
  exact Call.Quiet.bind (Call.quiet_noting _ fun _ => rfl) fun data => quiet_putBlob target d data

theorem quiet_sequence {calls : List (Call (σ × List Transfer) Unit)} (h : ∀ c ∈ calls, c.Quiet) :
    (Call.sequence calls).Quiet := by
  induction calls with
  | nil => exact Call.quiet_pure ()
  | cons c cs ih =>
    exact Call.Quiet.bind (h c List.mem_cons_self) fun _ =>
      ih fun d hd => h d (List.mem_cons_of_mem c hd)

/-- The calls of a push before its last blob upload no manifest. -/
theorem calls_noting (p : PushPlan) {before : List (Digest × Bytes)} {d : Digest} {data : Bytes}
    (hblobs : p.blobs = before ++ [(d, data)]) :
    ∃ calls, p.calls r.noting =
      calls ++ [r.noting.putBlob p.target d data, r.noting.putManifest p.target p.manifest] ∧
      ∀ c ∈ calls, c.Quiet := by
  refine ⟨p.copies r.noting ++ before.map fun b => r.noting.putBlob p.target b.1 b.2, ?_,
    fun c hc => ?_⟩
  · unfold PushPlan.calls PushPlan.blobCalls
    rw [hblobs]
    simp
  rcases List.mem_append.1 hc with hc | hc
  · obtain ⟨source, -, l, -, rfl⟩ := PushPlan.mem_copies hc
    exact quiet_copyBlob source p.target l.1
  · obtain ⟨b, -, rfl⟩ := List.mem_map.1 hc
    exact quiet_putBlob p.target b.1 b.2

/-- A push that succeeds uploads its manifest, after the last of its blobs. -/
theorem push_noting (p : PushPlan) {before : List (Digest × Bytes)} {d : Digest} {data : Bytes}
    (hblobs : p.blobs = before ++ [(d, data)]) (w : Run (σ × List Transfer)) :
    (p.push r.noting).Ends w
      (fun _ s' => Grows [p.manifest] w.registry.2 s'.2 ∧ .blobTo p.target d data ∈ s'.2 ∧
        .manifestTo p.target p.manifest ∈ s'.2)
      fun _ _ => True := by
  obtain ⟨calls, hcalls, hquiet⟩ := calls_noting (r := r) p hblobs
  rw [PushPlan.ends_push_iff, hcalls]
  unfold Call.Ends
  rw [Call.sequence_append]
  refine Call.Ends.bind (quiet_sequence hquiet w.registry) fun _ s1 h1 => ?_
  refine Call.Ends.bind (noting_ends _ _ s1) fun _ s2 h2 => ?_
  refine Call.Ends.bind (noting_ends _ _ s2) fun _ s3 h3 => ?_
  refine Call.Ends.pure ?_
  have hblob : Grows [] s1.2 s2.2 := h2 ▸ Grows.append s1.2 [.blobTo p.target d data]
  have hmanifest : Grows [p.manifest] s2.2 s3.2 :=
    h3 ▸ Grows.append s2.2 [.manifestTo p.target p.manifest]
  exact ⟨(h1.trans hblob).trans hmanifest, hmanifest.mem (h2 ▸ List.mem_concat_self),
    h3 ▸ List.mem_concat_self⟩

end OciCompose
