import OciCompose.Proofs.Registry.Contents

/-
  A blob that is made available in another repository of a registry in memory.
  A copy leaves a blob that is there already, else mounts it, else reads and uploads it. A registry
  that `MayDecline` mounts takes the third way for some blobs; the registry itself mounts all that
  it has (`copyBlob_apply`), from which pushes get what they need of copies.
  `copyBlob_moves`: where blobs are stored under the digests of their content, a copy that succeeds
  has `Moved` the one blob and changed nothing else, and one that fails has changed nothing at all.
  It fails for the reasons of `Unavailable`, and succeeds only where there is none.
-/

namespace OciCompose

/-! ## The ways of a copy -/

namespace Registry

variable {σ : Type} {r : Registry σ} {source target : Reference} {d : Digest} {s s1 s2 : σ}

theorem copyBlob_of_present (h : r.blobExists target d s = (.ok true, s1)) :
    r.copyBlob source target d s = (.ok (), s1) := by
  unfold copyBlob
  rw [Call.bind_apply, h]
  rfl

theorem copyBlob_of_mounted (h : r.blobExists target d s = (.ok false, s1))
    (hmount : r.mountBlob source target d s1 = (.ok true, s2)) :
    r.copyBlob source target d s = (.ok (), s2) := by
  unfold copyBlob
  rw [Call.bind_apply, h]
  dsimp only
  rw [if_neg Bool.false_ne_true, Call.bind_apply, hmount]
  rfl

theorem copyBlob_of_declined (h : r.blobExists target d s = (.ok false, s1))
    (hmount : r.mountBlob source target d s1 = (.ok false, s2)) :
    r.copyBlob source target d s = (r.getBlob source d >>= r.putBlob target d) s2 := by
  unfold copyBlob
  rw [Call.bind_apply, h]
  dsimp only
  rw [if_neg Bool.false_ne_true, Call.bind_apply, hmount]
  rfl

end Registry

namespace MemoryRegistry

section Copies

variable {source target : Reference} {d : Digest} {m : MemoryRegistry}

/-! ## Registries that may decline mounts -/

/-- A registry in memory that may decline the mounts that it is asked for. -/
structure MayDecline (r : Registry MemoryRegistry) : Prop where
  blobExists : r.blobExists = registry.blobExists
  getBlob : r.getBlob = registry.getBlob
  putBlob : r.putBlob = registry.putBlob
  mountBlob : ∀ source target d m,
    r.mountBlob source target d m = registry.mountBlob source target d m ∨
      r.mountBlob source target d m = (.ok false, m)

theorem mayDecline_registry : MayDecline registry := ⟨rfl, rfl, rfl, fun _ _ _ _ => .inl rfl⟩

theorem mayDecline_withoutMount : MayDecline registry.withoutMount :=
  ⟨rfl, rfl, rfl, fun _ _ _ _ => .inr rfl⟩

namespace MayDecline

variable {r : Registry MemoryRegistry} (h : MayDecline r)
include h

theorem blobExists_apply (repo : Reference) (d : Digest) (m : MemoryRegistry) :
    r.blobExists repo d m = (.ok (m.hasBlob repo d), m) := by
  rw [h.blobExists]
  rfl

theorem mountBlob_of_none (hs : m.blob? source d = none) :
    r.mountBlob source target d m = (.ok false, m) :=
  (h.mountBlob source target d m).elim (·.trans (MemoryRegistry.mountBlob_of_none hs)) id

theorem copyBlob_of_hasBlob (ht : m.hasBlob target d = true) :
    r.copyBlob source target d m = (.ok (), m) :=
  Registry.copyBlob_of_present (ht ▸ h.blobExists_apply target d m)

theorem copyBlob_of_mounted {m' : MemoryRegistry} (ht : m.hasBlob target d = false)
    (hmount : r.mountBlob source target d m = (.ok true, m')) :
    r.copyBlob source target d m = (.ok (), m') :=
  Registry.copyBlob_of_mounted (ht ▸ h.blobExists_apply target d m) hmount

theorem copyBlob_of_declined {data : Bytes} (ht : m.hasBlob target d = false)
    (hs : m.blob? source d = some data) (hmount : r.mountBlob source target d m = (.ok false, m)) :
    r.copyBlob source target d m = registry.putBlob target d data m := by
  rw [Registry.copyBlob_of_declined (ht ▸ h.blobExists_apply target d m) hmount, Call.bind_apply,
    h.getBlob, h.putBlob, getBlob_of_some hs]

theorem copyBlob_of_unknown (ht : m.hasBlob target d = false) (hs : m.blob? source d = none) :
    r.copyBlob source target d m =
      (.error (.registry .pull ("blob unknown: " ++ d.toText)), m) := by
  rw [Registry.copyBlob_of_declined (ht ▸ h.blobExists_apply target d m) (h.mountBlob_of_none hs),
    Call.bind_apply, h.getBlob, getBlob_of_none hs]

end MayDecline

/-! ## Copies with mounts -/

/-- A blob that the target lacks is mounted, if the source has it. -/
theorem copyBlob_apply (source target : Reference) (d : Digest) (m : MemoryRegistry) :
    registry.copyBlob source target d m =
      if m.hasBlob target d then (.ok (), m)
      else
        match m.blob? source d with
        | some data => (.ok (), m.setBlob target d data)
        | none => (.error (.registry .pull ("blob unknown: " ++ d.toText)), m) := by
  cases ht : m.hasBlob target d with
  | true => exact mayDecline_registry.copyBlob_of_hasBlob ht
  | false =>
    cases hs : m.blob? source d with
    | some data => exact mayDecline_registry.copyBlob_of_mounted ht (mountBlob_of_some hs)
    | none => exact mayDecline_registry.copyBlob_of_unknown ht hs

/-- A blob that is copied is there afterwards. A copy fails only if neither repository has the blob,
    and leaves the registry as it is then. -/
theorem copyBlob_ends (source target : Reference) (d : Digest) (m : MemoryRegistry) :
    (registry.copyBlob source target d).Ends m
      (fun _ m' => BlobsAdded target.context m m' ∧ m'.hasBlob target d = true)
      fun e m' => m' = m ∧ e.isPrePush = false ∧
        m.hasBlob target d = false ∧ m.hasBlob source d = false := by
  have hcopy := copyBlob_apply source target d m
  split at hcopy
  · next ht => exact (Call.Ends.of_eq_ok hcopy).2 ⟨BlobsAdded.refl _ _, ht⟩
  next ht =>
  split at hcopy
  · next data _ =>
    exact (Call.Ends.of_eq_ok hcopy).2 ⟨BlobsAdded.setBlob m target d data,
      (hasBlob_setBlob m target target d d data).2 (Or.inl ⟨rfl, rfl⟩)⟩
  · next hs =>
    exact (Call.Ends.of_eq_error hcopy).2
      ⟨rfl, rfl, Bool.eq_false_iff.2 ht, hasBlob_eq_false_iff.2 hs⟩

theorem copyBlob_fails (ht : m.hasBlob target d = false) (hs : m.hasBlob source d = false) :
    (registry.copyBlob source target d).Ends m (fun _ _ => False) fun _ _ => True :=
  (Call.Ends.of_eq_error
    (mayDecline_registry.copyBlob_of_unknown ht (hasBlob_eq_false_iff.1 hs))).2 trivial

/-- A copy of one blob is none of another. -/
theorem copyBlob_ends_other {repo : Reference} {e : Digest} (hne : e ≠ d)
    (h : m.hasBlob repo e = false) :
    (registry.copyBlob source target d).Ends m (fun _ m' => m'.hasBlob repo e = false)
      fun _ _ => True := by
  have hcopy := copyBlob_apply source target d m
  split at hcopy
  · exact (Call.Ends.of_eq_ok hcopy).2 h
  split at hcopy
  · next data _ =>
    refine (Call.Ends.of_eq_ok hcopy).2 ?_
    rw [Bool.eq_false_iff, Ne, hasBlob_setBlob]
    rintro (⟨-, heq⟩ | hhas)
    · exact hne heq
    · rw [h] at hhas
      cases hhas
  · exact (Call.Ends.of_eq_error hcopy).2 trivial

/-! ## What a copy moves -/

/-- A blob was made available in a repository, and nothing else was changed. -/
structure Moved (source target : Reference) (d : Digest) (m m' : MemoryRegistry) : Prop
    extends BlobsAdded target.context m m' where
  /-- The blob has its digest, and is the one that the target had, or else that of the source. -/
  held : ∃ data, m'.blob? target d = some data ∧ Digest.ofBytes data = d ∧
    (m.blob? target d).or (m.blob? source d) = some data
  others : ∀ repo e, (repo, e) ≠ (target.context, d) →
    m'.blobs.get? (repo, e) = m.blobs.get? (repo, e)
  present : m.hasBlob target d = true → m' = m

namespace Moved

theorem of_hasBlob
    (hm : ∀ repo e data, m.blobs.get? (repo, e) = some data → Digest.ofBytes data = e)
    (h : m.hasBlob target d = true) : Moved source target d m m where
  toBlobsAdded := BlobsAdded.refl target.context m
  held := by
    obtain ⟨data, hdata⟩ := Option.isSome_iff_exists.1 h
    exact ⟨data, hdata, hm _ _ _ hdata, by rw [hdata, Option.some_or]⟩
  others := fun _ _ _ => rfl
  present := fun _ => rfl

section Absent

variable {data : Bytes} (ht : m.hasBlob target d = false) (hs : m.blob? source d = some data)
  (hd : Digest.ofBytes data = d)
include ht hs hd

theorem setBlob : Moved source target d m (m.setBlob target d data) where
  toBlobsAdded := BlobsAdded.setBlob m target d data
  held := by
    refine ⟨data, blob?_setBlob m target d data, hd, ?_⟩
    rw [hasBlob_eq_false_iff.1 ht, Option.none_or, hs]
  others := fun _ _ hne => (Assoc.get?_insert ..).trans (if_neg hne)
  present := fun h => by
    rw [ht] at h
    cases h

/-- An upload is counted, and else as a mount is. -/
theorem upload : Moved source target d m (m.upload target d data) where
  toBlobsAdded := BlobsAdded.upload m target d data
  held := (Moved.setBlob ht hs hd).held
  others := (Moved.setBlob ht hs hd).others
  present := fun h => by
    rw [ht] at h
    cases h

end Absent

/-- A copy within a repository changes nothing. -/
theorem within {m' : MemoryRegistry} (h : Moved source target d m m')
    (hcontext : source.context = target.context) : m' = m := by
  obtain ⟨data, -, -, hdata⟩ := h.held
  rw [m.blob?_congr hcontext, Option.or_self] at hdata
  exact h.present (Option.isSome_iff_exists.2 ⟨data, hdata⟩)

end Moved

/-- Why a blob is not made available in a repository: neither repository has it, or it is not mounted
    and its upload is refused. -/
inductive Unavailable (r : Registry MemoryRegistry) (source target : Reference) (d : Digest)
    (m : MemoryRegistry) : Error → Prop
  | unknown (ht : m.hasBlob target d = false) (hs : m.hasBlob source d = false) :
      Unavailable r source target d m (.registry .pull ("blob unknown: " ++ d.toText))
  | refused {reason : String} (ht : m.hasBlob target d = false) (hs : m.hasBlob source d = true)
      (hmount : r.mountBlob source target d m = (.ok false, m)) (h : m.blobFailure = some reason) :
      Unavailable r source target d m (.registry .upload reason)

namespace Unavailable

variable {r : Registry MemoryRegistry} {data : Bytes} {e : Error}

theorem hasBlob_eq_false (h : Unavailable r source target d m e) : m.hasBlob target d = false := by
  cases h with
  | unknown ht _ => exact ht
  | refused ht _ _ _ => exact ht

/-- A blob of the source is unavailable only if it is not mounted and uploads are refused. -/
theorem refused_of_some (h : Unavailable r source target d m e) (hs : m.blob? source d = some data) :
    r.mountBlob source target d m = (.ok false, m) ∧ m.blobFailure ≠ none := by
  cases h with
  | unknown _ hnone =>
    rw [hasBlob_eq_false_iff, hs] at hnone
    cases hnone
  | refused _ _ hmount hf => exact ⟨hmount, Option.ne_none_iff_exists'.2 ⟨_, hf⟩⟩

end Unavailable

/-- A copy that has to upload the blob moves it, unless uploads are refused. -/
theorem MayDecline.uploads {r : Registry MemoryRegistry} (hr : MayDecline r) {data : Bytes}
    (ht : m.hasBlob target d = false) (hs : m.blob? source d = some data)
    (hd : Digest.ofBytes data = d) (hmount : r.mountBlob source target d m = (.ok false, m)) :
    (r.copyBlob source target d).Ends m
      (fun _ m' => Moved source target d m m' ∧ m.blobFailure = none)
      fun e m' => m' = m ∧ Unavailable r source target d m e := by
  have hcopy := hr.copyBlob_of_declined ht hs hmount
  cases hf : m.blobFailure with
  | none =>
    rw [putBlob_of_none hd hf] at hcopy
    exact (Call.Ends.of_eq_ok hcopy).2 ⟨Moved.upload ht hs hd, rfl⟩
  | some reason =>
    rw [putBlob_of_some hd hf] at hcopy
    have hsource : m.hasBlob source d = true := Option.isSome_iff_exists.2 ⟨data, hs⟩
    exact (Call.Ends.of_eq_error hcopy).2 ⟨rfl, .refused ht hsource hmount hf⟩

/-- Where blobs are stored under the digests of their content, a copy moves one blob and changes
    nothing else, whether or not the blob is mounted. A copy that fails changes nothing, and it fails
    exactly if the blob is unavailable. -/
theorem copyBlob_moves {r : Registry MemoryRegistry} (hr : MayDecline r)
    (hm : ∀ repo e data, m.blobs.get? (repo, e) = some data → Digest.ofBytes data = e)
    (source target : Reference) (d : Digest) :
    (r.copyBlob source target d).Ends m
      (fun _ m' => Moved source target d m m' ∧ ∀ e, ¬ Unavailable r source target d m e)
      fun e m' => m' = m ∧ Unavailable r source target d m e := by
  by_cases ht : m.hasBlob target d = true
  · refine (Call.Ends.of_eq_ok (hr.copyBlob_of_hasBlob ht)).2 ⟨Moved.of_hasBlob hm ht, ?_⟩
    intro e h
    rw [h.hasBlob_eq_false] at ht
    cases ht
  rw [Bool.not_eq_true] at ht
  rcases hs : m.blob? source d with _ | data
  · exact (Call.Ends.of_eq_error (hr.copyBlob_of_unknown ht hs)).2
      ⟨rfl, .unknown ht (hasBlob_eq_false_iff.2 hs)⟩
  have hd : Digest.ofBytes data = d := hm _ _ _ hs
  rcases hr.mountBlob source target d m with hmount | hmount
  · rw [mountBlob_of_some hs] at hmount
    refine (Call.Ends.of_eq_ok (hr.copyBlob_of_mounted ht hmount)).2 ⟨Moved.setBlob ht hs hd, ?_⟩
    intro e h
    rw [(h.refused_of_some hs).1] at hmount
    cases hmount
  · refine (hr.uploads ht hs hd hmount).mono (fun _ _ h => ⟨h.1, fun e hu => ?_⟩) fun _ _ h => h
    exact (hu.refused_of_some hs).2 h.2

end Copies

namespace Filled

/-- A repository with a blob, in a registry that takes no uploads. -/
def closed : MemoryRegistry := { empty.seedBlob target [1] with blobFailure := some "closed" }

theorem contentAddressed_closed : ContentAddressed closed :=
  have h := ContentAddressed.empty.setBlob target (rfl : Digest.ofBytes [1] = Digest.ofBytes [1])
  ⟨h.blobs, h.digests, h.tags, h.pushed, h.names⟩

theorem blob?_closed : closed.blob? target (Digest.ofBytes [1]) = some [1] :=
  blob?_setBlob empty target (Digest.ofBytes [1]) [1]

theorem hasBlob_closed : closed.hasBlob other (Digest.ofBytes [1]) = false := by
  rw [hasBlob_eq_false_iff]
  refine (Assoc.get?_insert ..).trans (if_neg fun h => ?_)
  exact absurd (congrArg Prod.fst h) (by decide)

end Filled

open Filled in
/-- A mount moves the blob where uploads are refused; without mounts it is not moved. -/
theorem copyBlob_moves_closed :
    (∃ m', registry.copyBlob target other (Digest.ofBytes [1]) closed = (.ok (), m') ∧
      Moved target other (Digest.ofBytes [1]) closed m') ∧
    ∃ e, registry.withoutMount.copyBlob target other (Digest.ofBytes [1]) closed =
        (.error e, closed) ∧
      Unavailable registry.withoutMount target other (Digest.ofBytes [1]) closed e := by
  have hm := contentAddressed_closed.blobs
  have hmounted := mayDecline_registry.copyBlob_of_mounted hasBlob_closed
    (mountBlob_of_some blob?_closed)
  have hput : registry.putBlob other (Digest.ofBytes [1]) [1] closed =
      (.error (.registry .upload "closed"), closed) := putBlob_of_some rfl rfl
  have hrefused := (mayDecline_withoutMount.copyBlob_of_declined hasBlob_closed blob?_closed
    rfl).trans hput
  -- as a variable the registry is not evaluated, nor are the digests in it
  generalize closed = m at hm hmounted hrefused ⊢
  have hmoved := copyBlob_moves mayDecline_registry hm target other (Digest.ofBytes [1])
  have hkept := copyBlob_moves mayDecline_withoutMount hm target other (Digest.ofBytes [1])
  exact ⟨⟨_, hmounted, ((Call.Ends.of_eq_ok hmounted).1 hmoved).1⟩, _, hrefused,
    ((Call.Ends.of_eq_error hrefused).1 hkept).2⟩

end MemoryRegistry

end OciCompose
