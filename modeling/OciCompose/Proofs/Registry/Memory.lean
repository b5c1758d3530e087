import OciCompose.Registry.Memory
import OciCompose.Proofs.Outcome

/-
  What the operations of a registry in memory write.
  `BlobsAdded` says that only blobs of one repository were added, `Extended` that so were manifests
  without a tag. Each operation is stated by the condition that decides it, and then once about how
  its calls end and why they fail.
-/

namespace OciCompose.MemoryRegistry

/-! ## Look-ups -/

/-- The manifest under a tag of a repository. -/
def tagged? (m : MemoryRegistry) (repo t : String) : Option RawManifest :=
  m.manifests.get? (repo, .tag t)

/-- The registry after an upload of a manifest. -/
def publish (m : MemoryRegistry) (target : Reference) (raw : RawManifest) : MemoryRegistry :=
  { m with pushed := m.pushed ++ [(target.toText, raw)] }.storeManifest target raw

section Publish

variable (m : MemoryRegistry) (target : Reference) (raw : RawManifest)

@[simp] theorem pushed_publish :
    (m.publish target raw).pushed = m.pushed ++ [(target.toText, raw)] := rfl

theorem manifests_publish (key : String × ManifestKey) :
    (m.publish target raw).manifests.get? key =
      if key = (target.context, .digest raw.digest) ∨
          ∃ t, target.tag = some t ∧ key = (target.context, .tag t) then some raw
      else m.manifests.get? key := by
  cases ht : target.tag with
  | none =>
    simp only [publish, storeManifest, ht, Assoc.get?_insert]
    simp
  | some t =>
    simp only [publish, storeManifest, ht, Assoc.get?_insert]
    by_cases h1 : key = (target.context, .digest raw.digest)
    · simp [h1]
    · by_cases h2 : key = (target.context, .tag t) <;> simp [h1, h2]

/-- An upload takes no entry away. -/
theorem isSome_publish {key : String × ManifestKey} (h : (m.manifests.get? key).isSome = true) :
    ((m.publish target raw).manifests.get? key).isSome = true := by
  rw [manifests_publish]
  split
  · rfl
  · exact h

theorem tagged?_publish (repo t : String) :
    (m.publish target raw).tagged? repo t =
      if repo = target.context ∧ target.tag = some t then some raw else m.tagged? repo t := by
  unfold tagged?
  rw [manifests_publish]
  by_cases h : repo = target.context ∧ target.tag = some t
  · rw [if_pos h, if_pos (Or.inr ⟨t, h.2, by rw [h.1]⟩)]
  · rw [if_neg h, if_neg]
    rintro (h' | ⟨u, hu, h'⟩)
    · cases h'
    · cases h'; exact h ⟨rfl, hu⟩

/-- A manifest is found under its own digest. -/
theorem manifest?_publish :
    (m.publish target raw).manifest? (target.withDigest raw.digest) = some raw := by
  unfold manifest?
  exact (manifests_publish m target raw _).trans (if_pos (Or.inl rfl))

end Publish

theorem hasBlob_setBlob (m : MemoryRegistry) (repo other : Reference) (d e : Digest) (data : Bytes) :
    (m.setBlob repo d data).hasBlob other e = true ↔
      (other.context = repo.context ∧ e = d) ∨ m.hasBlob other e = true := by
  unfold hasBlob blob? setBlob
  rw [Assoc.get?_insert]
  by_cases h : (other.context, e) = (repo.context, d)
  · rw [if_pos h]
    exact ⟨fun _ => Or.inl (Prod.mk.inj h), fun _ => rfl⟩
  · rw [if_neg h]
    exact ⟨Or.inr, fun h' => h'.resolve_left fun he => h (Prod.ext he.1 he.2)⟩

theorem hasBlob_eq_false_iff {m : MemoryRegistry} {repo : Reference} {d : Digest} :
    m.hasBlob repo d = false ↔ m.blob? repo d = none :=
  Option.isSome_eq_false_iff.trans Option.isNone_iff_eq_none

theorem blob?_congr (m : MemoryRegistry) {r s : Reference} (h : r.context = s.context) (d : Digest) :
    m.blob? r d = m.blob? s d := by
  unfold blob?
  rw [h]

theorem blob?_setBlob (m : MemoryRegistry) (repo : Reference) (d : Digest) (data : Bytes) :
    (m.setBlob repo d data).blob? repo d = some data := by
  unfold blob? setBlob
  rw [Assoc.get?_insert, if_pos rfl]

/-- The registry after an upload of a blob. -/
def upload (m : MemoryRegistry) (repo : Reference) (d : Digest) (data : Bytes) : MemoryRegistry :=
  { m.setBlob repo d data with blobUploads := m.blobUploads + 1 }

theorem hasBlob_upload (m : MemoryRegistry) (repo : Reference) (d : Digest) (data : Bytes) :
    (m.upload repo d data).hasBlob repo d = true :=
  (hasBlob_setBlob m repo repo d d data).2 (Or.inl ⟨rfl, rfl⟩)

/-! ## What is written -/

/-- Blobs of one repository were added or written again, and nothing else. -/
structure BlobsAdded (repo : String) (m m' : MemoryRegistry) : Prop where
  manifests : m'.manifests = m.manifests
  pushed : m'.pushed = m.pushed
  blobFailure : m'.blobFailure = m.blobFailure
  manifestFailure : m'.manifestFailure = m.manifestFailure
  elsewhere : ∀ c d, c ≠ repo → m'.blobs.get? (c, d) = m.blobs.get? (c, d)
  kept : ∀ r d, m.hasBlob r d = true → m'.hasBlob r d = true

namespace BlobsAdded

variable {repo : String} {m m' m'' : MemoryRegistry}

theorem refl (repo : String) (m : MemoryRegistry) : BlobsAdded repo m m :=
  ⟨rfl, rfl, rfl, rfl, fun _ _ _ => rfl, fun _ _ h => h⟩

theorem trans (h : BlobsAdded repo m m') (h' : BlobsAdded repo m' m'') : BlobsAdded repo m m'' where
  manifests := h'.manifests.trans h.manifests
  pushed := h'.pushed.trans h.pushed
  blobFailure := h'.blobFailure.trans h.blobFailure
  manifestFailure := h'.manifestFailure.trans h.manifestFailure
  elsewhere := fun c d hc => (h'.elsewhere c d hc).trans (h.elsewhere c d hc)
  kept := fun r d hd => h'.kept r d (h.kept r d hd)

theorem setBlob (m : MemoryRegistry) (repo : Reference) (d : Digest) (data : Bytes) :
    BlobsAdded repo.context m (m.setBlob repo d data) where
  manifests := rfl
  pushed := rfl
  blobFailure := rfl
  manifestFailure := rfl
  elsewhere := by
    intro c e hc
    unfold MemoryRegistry.setBlob
    rw [Assoc.get?_insert, if_neg (fun h => hc (congrArg Prod.fst h))]
  kept := fun r e h => (hasBlob_setBlob m repo r d e data).2 (Or.inr h)

theorem upload (m : MemoryRegistry) (repo : Reference) (d : Digest) (data : Bytes) :
    BlobsAdded repo.context m (m.upload repo d data) :=
  have h := BlobsAdded.setBlob m repo d data
  ⟨h.manifests, h.pushed, h.blobFailure, h.manifestFailure, h.elsewhere, h.kept⟩

theorem manifest?_eq (h : BlobsAdded repo m m') (r : Reference) : m'.manifest? r = m.manifest? r := by
  unfold manifest?
  rw [h.manifests]

end BlobsAdded

/-- Only one repository was written to. -/
structure Confined (repo : String) (m m' : MemoryRegistry) : Prop where
  blobs : ∀ c d, c ≠ repo → m'.blobs.get? (c, d) = m.blobs.get? (c, d)
  manifests : ∀ c k, c ≠ repo → m'.manifests.get? (c, k) = m.manifests.get? (c, k)

theorem Confined.trans {repo : String} {m m' m'' : MemoryRegistry} (h : Confined repo m m')
    (h' : Confined repo m' m'') : Confined repo m m'' where
  blobs := fun c d hc => (h'.blobs c d hc).trans (h.blobs c d hc)
  manifests := fun c k hc => (h'.manifests c k hc).trans (h.manifests c k hc)

theorem Confined.publish (m : MemoryRegistry) (target : Reference) (raw : RawManifest) :
    Confined target.context m (m.publish target raw) where
  blobs := fun _ _ _ => rfl
  manifests := fun c k hc => by
    rw [manifests_publish, if_neg]
    intro h
    rcases h with hk | ⟨t, -, hk⟩ <;> exact hc (congrArg Prod.fst hk)

/-- Nothing that was there is missing. -/
structure Keeps (m m' : MemoryRegistry) : Prop where
  keptBlobs : ∀ r d, m.hasBlob r d = true → m'.hasBlob r d = true
  keptManifests : ∀ r, (m.manifest? r).isSome = true → (m'.manifest? r).isSome = true

theorem Keeps.publish (m : MemoryRegistry) (target : Reference) (raw : RawManifest) :
    Keeps m (m.publish target raw) where
  keptBlobs := fun _ _ hd => hd
  keptManifests := fun _ hr => isSome_publish m target raw hr

/-- Blobs and manifests without a tag were added to one repository, and nothing else. -/
structure Extended (repo : String) (m m' : MemoryRegistry) : Prop
    extends Confined repo m m', Keeps m m' where
  tags : ∀ c t, m'.tagged? c t = m.tagged? c t
  blobFailure : m'.blobFailure = m.blobFailure
  manifestFailure : m'.manifestFailure = m.manifestFailure

namespace Extended

variable {repo : String} {m m' m'' : MemoryRegistry}

theorem refl (repo : String) (m : MemoryRegistry) : Extended repo m m where
  blobs := fun _ _ _ => rfl
  manifests := fun _ _ _ => rfl
  tags := fun _ _ => rfl
  keptBlobs := fun _ _ h => h
  keptManifests := fun _ h => h
  blobFailure := rfl
  manifestFailure := rfl

theorem trans (h : Extended repo m m') (h' : Extended repo m' m'') : Extended repo m m'' where
  toConfined := h.toConfined.trans h'.toConfined
  tags := fun c t => (h'.tags c t).trans (h.tags c t)
  keptBlobs := fun r d hd => h'.keptBlobs r d (h.keptBlobs r d hd)
  keptManifests := fun r hr => h'.keptManifests r (h.keptManifests r hr)
  blobFailure := h'.blobFailure.trans h.blobFailure
  manifestFailure := h'.manifestFailure.trans h.manifestFailure

/-- A manifest put to an extended repository moves the tag of its target, and no other. -/
theorem publish_to {target : Reference} (h : Extended target.context m m') (raw : RawManifest) :
    Confined target.context m (m'.publish target raw) ∧
      (∀ c t, ¬ (c = target.context ∧ target.tag = some t) →
        (m'.publish target raw).tagged? c t = m.tagged? c t) ∧
      ∀ t, target.tag = some t → (m'.publish target raw).tagged? target.context t = some raw := by
  refine ⟨h.toConfined.trans (Confined.publish m' target raw), fun c t hne => ?_, fun t ht => ?_⟩
  · rw [tagged?_publish, if_neg hne, h.tags]
  · rw [tagged?_publish, if_pos ⟨rfl, ht⟩]

/-- A manifest without a tag extends its repository. -/
theorem publish {target : Reference} (raw : RawManifest) (h : target.tag = none) :
    Extended target.context m (m.publish target raw) where
  toConfined := Confined.publish m target raw
  tags := fun c t => by
    rw [tagged?_publish, if_neg]
    intro ht
    rw [h] at ht
    cases ht.2
  toKeeps := Keeps.publish m target raw
  blobFailure := rfl
  manifestFailure := rfl

end Extended

theorem BlobsAdded.extended {repo : String} {m m' : MemoryRegistry} (h : BlobsAdded repo m m') :
    Extended repo m m' where
  blobs := h.elsewhere
  manifests := fun c k _ => by rw [h.manifests]
  tags := fun c t => by unfold tagged?; rw [h.manifests]
  keptBlobs := h.kept
  keptManifests := fun r hr => by rw [h.manifest?_eq]; exact hr
  blobFailure := h.blobFailure
  manifestFailure := h.manifestFailure

/-! ## Calls -/

section Calls

variable {repo source target : Reference} {d : Digest} {data : Bytes} {m : MemoryRegistry}

theorem getManifest_of_some {r : Reference} {raw : RawManifest} (h : m.manifest? r = some raw) :
    registry.getManifest r m = (.ok raw, m) := by
  show getManifest r m = _
  unfold getManifest
  rw [h]

theorem getManifest_of_none {r : Reference} (h : m.manifest? r = none) :
    registry.getManifest r m =
      (.error (.registry .pull ("manifest unknown: " ++ r.toText)), m) := by
  show getManifest r m = _
  unfold getManifest
  rw [h]

theorem getBlob_of_some (h : m.blob? repo d = some data) :
    registry.getBlob repo d m = (.ok data, m) := by
  show getBlob repo d m = _
  unfold getBlob
  rw [h]

theorem getBlob_of_none (h : m.blob? repo d = none) :
    registry.getBlob repo d m = (.error (.registry .pull ("blob unknown: " ++ d.toText)), m) := by
  show getBlob repo d m = _
  unfold getBlob
  rw [h]

theorem putBlob_of_ne (h : Digest.ofBytes data ≠ d) :
    registry.putBlob repo d data m =
      (.error (.registry .upload ("content does not match " ++ d.toText)), m) := if_pos h

theorem putBlob_of_some {reason : String} (hd : Digest.ofBytes data = d)
    (h : m.blobFailure = some reason) :
    registry.putBlob repo d data m = (.error (.registry .upload reason), m) := by
  show putBlob repo d data m = _
  unfold putBlob
  rw [if_neg (not_not_intro hd), h]

theorem putBlob_of_none (hd : Digest.ofBytes data = d) (h : m.blobFailure = none) :
    registry.putBlob repo d data m = (.ok (), m.upload repo d data) := by
  show putBlob repo d data m = _
  unfold putBlob
  rw [if_neg (not_not_intro hd), h]
  rfl

theorem mountBlob_of_some (h : m.blob? source d = some data) :
    registry.mountBlob source target d m = (.ok true, m.setBlob target d data) := by
  show mountBlob source target d m = _
  unfold mountBlob
  rw [h]

theorem mountBlob_of_none (h : m.blob? source d = none) :
    registry.mountBlob source target d m = (.ok false, m) := by
  show mountBlob source target d m = _
  unfold mountBlob
  rw [h]

theorem putManifest_of_some {raw : RawManifest} {reason : String}
    (h : m.manifestFailure = some reason) :
    registry.putManifest target raw m = (.error (.registry .push reason), m) := by
  show putManifest target raw m = _
  unfold putManifest
  rw [h]

theorem putManifest_of_none {raw : RawManifest} (h : m.manifestFailure = none) :
    registry.putManifest target raw m = (.ok (), m.publish target raw) := by
  show putManifest target raw m = _
  unfold putManifest
  split
  · next hsome =>
    rw [h] at hsome
    cases hsome
  · rfl

end Calls

/-- Reading a manifest changes nothing. -/
theorem getManifest_ends (r : Reference) (m : MemoryRegistry) :
    (registry.getManifest r).Ends m (fun raw m' => m' = m ∧ m.manifest? r = some raw)
      fun e m' => m' = m ∧ e.isPrePush = false ∧ m.manifest? r = none := by
  rcases hs : m.manifest? r with _ | raw
  · exact (Call.Ends.of_eq_error (getManifest_of_none hs)).2 ⟨rfl, rfl, rfl⟩
  · exact (Call.Ends.of_eq_ok (getManifest_of_some hs)).2 ⟨rfl, rfl⟩

/-- Reading a blob changes nothing. -/
theorem getBlob_ends (repo : Reference) (d : Digest) (m : MemoryRegistry) :
    (registry.getBlob repo d).Ends m (fun data m' => m' = m ∧ m.blob? repo d = some data)
      fun e m' => m' = m ∧ e.isPrePush = false ∧ m.blob? repo d = none := by
  rcases hs : m.blob? repo d with _ | data
  · exact (Call.Ends.of_eq_error (getBlob_of_none hs)).2 ⟨rfl, rfl, rfl⟩
  · exact (Call.Ends.of_eq_ok (getBlob_of_some hs)).2 ⟨rfl, rfl⟩

/-- A refused upload leaves the registry as it is. -/
theorem putBlob_ends (repo : Reference) (d : Digest) (data : Bytes) (m : MemoryRegistry) :
    (registry.putBlob repo d data).Ends m
      (fun _ m' => m' = m.upload repo d data ∧ Digest.ofBytes data = d ∧ m.blobFailure = none)
      fun e m' => m' = m ∧ e.isPrePush = false ∧
        (m.blobFailure ≠ none ∨ Digest.ofBytes data ≠ d) := by
  by_cases hd : Digest.ofBytes data = d
  · rcases hf : m.blobFailure with _ | reason
    · exact (Call.Ends.of_eq_ok (putBlob_of_none hd hf)).2 ⟨rfl, hd, rfl⟩
    · exact (Call.Ends.of_eq_error (putBlob_of_some hd hf)).2 ⟨rfl, rfl, Or.inl nofun⟩
  · exact (Call.Ends.of_eq_error (putBlob_of_ne hd)).2 ⟨rfl, rfl, Or.inr hd⟩

theorem putBlob_fails {repo : Reference} {d : Digest} {data : Bytes} {m : MemoryRegistry}
    (h : m.blobFailure ≠ none ∨ Digest.ofBytes data ≠ d) :
    (registry.putBlob repo d data).Ends m (fun _ _ => False) fun _ _ => True :=
  (putBlob_ends repo d data m).mono (fun _ _ hput => h.elim (· hput.2.2) (· hput.2.1))
    fun _ _ _ => trivial

theorem putManifest_ends (target : Reference) (raw : RawManifest) (m : MemoryRegistry) :
    (registry.putManifest target raw).Ends m
      (fun _ m' => m' = m.publish target raw)
      fun e m' => m' = m ∧ e.isPrePush = false ∧ m.manifestFailure ≠ none := by
  rcases hm : m.manifestFailure with _ | reason
  · exact (Call.Ends.of_eq_ok (putManifest_of_none hm)).2 rfl
  · exact (Call.Ends.of_eq_error (putManifest_of_some hm)).2 ⟨rfl, rfl, nofun⟩

theorem putManifest_fails {target : Reference} {raw : RawManifest} {m : MemoryRegistry}
    (h : m.manifestFailure ≠ none) :
    (registry.putManifest target raw).Ends m (fun _ _ => False) fun _ _ => True := by
  obtain ⟨reason, hreason⟩ := Option.ne_none_iff_exists'.1 h
  exact (Call.Ends.of_eq_error (putManifest_of_some hreason)).2 trivial

/-- A mount is made of every blob that is there. -/
theorem mountBlob_ends (source target : Reference) (d : Digest) (m : MemoryRegistry) :
    (registry.mountBlob source target d).Ends m
      (fun b m' =>
        if b then ∃ data, m.blob? source d = some data ∧ m' = m.setBlob target d data
        else m' = m ∧ m.blob? source d = none)
      fun _ _ => False := by
  rcases hs : m.blob? source d with _ | data
  · exact (Call.Ends.of_eq_ok (mountBlob_of_none hs)).2 ⟨rfl, rfl⟩
  · exact (Call.Ends.of_eq_ok (mountBlob_of_some hs)).2 ⟨data, rfl, rfl⟩

end OciCompose.MemoryRegistry
