import OciCompose.Proofs.Reference
import OciCompose.Proofs.Registry.Memory

/-
  A registry in memory is content-addressed.
  `ContentAddressed` says that blobs and manifests are stored under digests of their content, that
  tags stand for manifests that are also found by digest, and that so is every logged upload. Each
  call that writes keeps it and takes nothing away (`Write.perform_ends`), hence so does every run of
  such calls (`contents_of_run`).
  Tags and digests name manifests side by side. No tag is the text of a digest, as it has no colon
  (`ManifestKey.text_inj`), so manifests may as well be looked up by those texts (`named?_eq`).
-/

namespace OciCompose

/-! ## Names of manifests -/

namespace ManifestKey

/-- A key as a text: the tag, or the text of the digest. -/
def text : ManifestKey → String
  | tag t => t
  | digest d => d.toText

/-- A key that a reference can have: its tag, if it is one, is well formed. -/
def IsName : ManifestKey → Prop
  | tag t => Reference.isTag t.toList = true
  | digest _ => True

theorem text_ofReference (r : Reference) : (ofReference r).text = r.lookupKey := by
  unfold ofReference Reference.lookupKey Reference.identifier
  cases r.digest with
  | some d => rfl
  | none => cases r.tag <;> rfl

theorem isName_ofReference {r : Reference} (h : r.IsObtained) : (ofReference r).IsName := by
  unfold ofReference
  cases r.digest with
  | some d => exact trivial
  | none =>
    cases ht : r.tag with
    | none => show Reference.isTag Reference.defaultTag.toList = true; decide
    | some t => exact h.isTag t ht

theorem colon_not_mem_of_isTag {t : List Char} (h : Reference.isTag t = true) : ':' ∉ t := by
  cases t with
  | nil => cases h
  | cons c cs =>
    rw [Reference.isTag, Bool.and_eq_true, Bool.and_eq_true, List.all_eq_true] at h
    obtain ⟨⟨hc, -⟩, hcs⟩ := h
    intro hmem
    rcases List.mem_cons.1 hmem with rfl | hmem
    · exact absurd hc (by decide)
    · exact absurd (hcs ':' hmem) (by decide)

theorem tag_ne_toText {t : String} (h : Reference.isTag t.toList = true) (d : Digest) :
    t ≠ d.toText := by
  rintro rfl
  refine colon_not_mem_of_isTag h ?_
  rw [Digest.toList_toText]
  exact List.mem_append_right _ List.mem_cons_self

theorem toText_inj {d e : Digest} (h : d.toText = e.toText) : d = e := by
  have hparse := d.parse_toText
  rw [h, e.parse_toText] at hparse
  exact (Except.ok.inj hparse).symm

/-- Different names have different texts. -/
theorem text_inj {k l : ManifestKey} (hk : k.IsName) (hl : l.IsName) (h : k.text = l.text) :
    k = l := by
  cases k with
  | tag t =>
    cases l with
    | tag u => exact congrArg tag h
    | digest e => exact (tag_ne_toText hk e h).elim
  | digest d =>
    cases l with
    | tag u => exact (tag_ne_toText hl d h.symm).elim
    | digest e => exact congrArg digest (toText_inj h)

end ManifestKey

theorem Assoc.mem_insert {κ α : Type} [DecidableEq κ] {m : Assoc κ α} {k : κ} {a : α} {e : κ × α}
    (h : e ∈ (m.insert k a).entries) : e = (k, a) ∨ e ∈ m.entries :=
  (List.mem_cons.1 h).imp_right fun hmem => (List.mem_filter.1 hmem).1

namespace MemoryRegistry

/-- The manifest of a repository under a name. -/
def named? (m : MemoryRegistry) (repo name : String) : Option RawManifest :=
  (m.manifests.entries.find? fun e => e.1.1 = repo ∧ e.1.2.text = name).map Prod.snd

/-! ## What is stored where -/

/-- Everything is stored under the digest of its content, and found by it. -/
structure ContentAddressed (m : MemoryRegistry) : Prop where
  blobs : ∀ repo d data, m.blobs.get? (repo, d) = some data → Digest.ofBytes data = d
  digests : ∀ repo d raw, m.manifests.get? (repo, .digest d) = some raw → raw.digest = d
  tags : ∀ repo t raw, m.tagged? repo t = some raw →
    (m.manifests.get? (repo, .digest raw.digest)).isSome = true
  pushed : ∀ e ∈ m.pushed, ∃ target : Reference, target.IsObtained ∧ e.1 = target.toText ∧
    (m.manifests.get? (target.context, .digest e.2.digest)).isSome = true
  names : ∀ e ∈ m.manifests.entries, e.1.2.IsName

/-- Where all keys are names, a look-up by the text of a name is one by the name. -/
theorem named?_eq {m : MemoryRegistry} (h : ∀ e ∈ m.manifests.entries, e.1.2.IsName) (repo : String)
    {k : ManifestKey} (hk : k.IsName) : m.named? repo k.text = m.manifests.get? (repo, k) := by
  unfold named? Assoc.get?
  rw [← List.head?_filter, ← List.head?_filter]
  congr 2
  refine List.filter_congr fun e he => decide_eq_decide.2 ⟨fun hkey => ?_, ?_⟩
  · exact Prod.ext hkey.1 (ManifestKey.text_inj (h e he) hk hkey.2)
  · intro hkey
    rw [hkey]
    exact ⟨rfl, rfl⟩

/-- What is found for a reference is what stands under its text. -/
theorem manifest?_eq_named? {m : MemoryRegistry} (h : ∀ e ∈ m.manifests.entries, e.1.2.IsName)
    {r : Reference} (hr : r.IsObtained) : m.manifest? r = m.named? r.context r.lookupKey := by
  rw [← ManifestKey.text_ofReference, named?_eq h r.context (ManifestKey.isName_ofReference hr)]
  rfl

namespace ContentAddressed

variable {m : MemoryRegistry}

theorem empty : ContentAddressed .empty := ⟨nofun, nofun, nofun, nofun, nofun⟩

/-- A blob that is stored under its digest. -/
theorem setBlob (h : ContentAddressed m) (repo : Reference) {d : Digest} {data : Bytes}
    (hd : Digest.ofBytes data = d) : ContentAddressed (m.setBlob repo d data) where
  blobs := by
    intro c e stored hstored
    unfold MemoryRegistry.setBlob at hstored
    rw [Assoc.get?_insert] at hstored
    split at hstored
    · next hkey =>
      cases hkey
      cases hstored
      exact hd
    · exact h.blobs c e stored hstored
  digests := h.digests
  tags := h.tags
  pushed := h.pushed
  names := h.names

theorem seedBlobs (h : ContentAddressed m) (repo : Reference) (data : List Bytes) :
    ContentAddressed (m.seedBlobs repo data) := by
  induction data generalizing m with
  | nil => exact h
  | cons b bs ih => exact ih (h.setBlob repo rfl)

/-- An upload of a manifest. -/
theorem publish (h : ContentAddressed m) {target : Reference} (ht : target.IsObtained)
    (raw : RawManifest) : ContentAddressed (m.publish target raw) where
  blobs := h.blobs
  digests := by
    intro repo d stored hstored
    rw [manifests_publish] at hstored
    split at hstored
    · next hkey =>
      cases hstored
      rcases hkey with hkey | ⟨t, -, hkey⟩ <;> cases hkey
      rfl
    · exact h.digests repo d stored hstored
  tags := by
    intro repo t stored hstored
    rw [tagged?_publish] at hstored
    split at hstored
    · next hkey =>
      cases hstored
      rw [hkey.1, manifests_publish, if_pos (Or.inl rfl)]
      rfl
    · exact isSome_publish m target raw (h.tags repo t stored hstored)
  pushed := by
    intro e he
    rcases List.mem_append.1 he with he | he
    · obtain ⟨r, hr, htext, hstored⟩ := h.pushed e he
      exact ⟨r, hr, htext, isSome_publish m target raw hstored⟩
    · cases List.mem_singleton.1 he
      refine ⟨target, ht, rfl, ?_⟩
      rw [manifests_publish, if_pos (Or.inl rfl)]
      rfl
  names := by
    intro e he
    rcases Assoc.mem_insert he with rfl | he
    · exact trivial
    split at he
    · next t htag =>
      rcases Assoc.mem_insert he with rfl | he
      · exact ht.isTag t htag
      · exact h.names e he
    · exact h.names e he

/-- A manifest that is stored without being logged. -/
theorem storeManifest (h : ContentAddressed m) {target : Reference} (ht : target.IsObtained)
    (raw : RawManifest) : ContentAddressed (m.storeManifest target raw) where
  blobs := h.blobs
  digests := (h.publish ht raw).digests
  tags := (h.publish ht raw).tags
  pushed := fun e he => (h.publish ht raw).pushed e (List.mem_append_left _ he)
  names := (h.publish ht raw).names

end ContentAddressed

/-! ## What is kept -/

namespace Keeps

variable {m m' m'' : MemoryRegistry}

theorem refl (m : MemoryRegistry) : Keeps m m := ⟨fun _ _ h => h, fun _ h => h⟩

theorem trans (h : Keeps m m') (h' : Keeps m' m'') : Keeps m m'' where
  keptBlobs := fun r d hd => h'.keptBlobs r d (h.keptBlobs r d hd)
  keptManifests := fun r hr => h'.keptManifests r (h.keptManifests r hr)

theorem storeManifest (m : MemoryRegistry) (target : Reference) (raw : RawManifest) :
    Keeps m (m.storeManifest target raw) :=
  ⟨(Keeps.publish m target raw).keptBlobs, (Keeps.publish m target raw).keptManifests⟩

end Keeps

theorem BlobsAdded.seedBlobs (m : MemoryRegistry) (repo : Reference) (data : List Bytes) :
    BlobsAdded repo.context m (m.seedBlobs repo data) := by
  induction data generalizing m with
  | nil => exact .refl _ m
  | cons b bs ih => exact (BlobsAdded.setBlob m repo (Digest.ofBytes b) b).trans (ih _)

/-! ## Calls that write -/

/-- An upload of a blob is stored if its content has the digest. -/
theorem putBlob_content (repo : Reference) (d : Digest) (data : Bytes) {m : MemoryRegistry}
    (hm : ContentAddressed m) :
    (registry.putBlob repo d data).Ends m (fun _ m' => ContentAddressed m') fun _ _ => True := by
  refine (putBlob_ends repo d data m).mono ?_ fun _ _ _ => trivial
  rintro _ _ ⟨rfl, hd, -⟩
  have hset := hm.setBlob repo hd
  exact ⟨hset.blobs, hset.digests, hset.tags, hset.pushed, hset.names⟩

/-- A mounted blob has the digest that it had where it was. -/
theorem mountBlob_content (source target : Reference) (d : Digest) {m : MemoryRegistry}
    (hm : ContentAddressed m) :
    (registry.mountBlob source target d).Ends m (fun _ m' => ContentAddressed m') fun _ _ => True := by
  refine (mountBlob_ends source target d m).mono (fun b m' hmount => ?_) fun _ _ _ => trivial
  cases b with
  | true =>
    obtain ⟨data, hdata, rfl⟩ := hmount
    exact hm.setBlob target (hm.blobs source.context d data hdata)
  | false => exact hmount.1 ▸ hm

/-- A call that may write: what stores something without an upload, uploads, and what makes uploads
    fail. -/
inductive Write where
  | seedBlob (repo : Reference) (data : Bytes)
  | seedManifest (target : Reference) (raw : RawManifest)
  | seedImage (target : Reference) (kind : ManifestKind) (config : ImageConfig) (layers : List Bytes)
  | seedIndex (target : Reference) (index : ImageIndex)
  | putBlob (repo : Reference) (d : Digest) (data : Bytes)
  | mountBlob (source target : Reference) (d : Digest)
  | putManifest (target : Reference) (raw : RawManifest)
  | refuseBlobs (reason : String)
  | refuseManifests (reason : String)

namespace Write

/-- The references that a call is given. -/
def references : Write → List Reference
  | seedBlob repo _ | putBlob repo _ _ => [repo]
  | seedManifest target _ | seedImage target _ _ _ | seedIndex target _ | putManifest target _ =>
    [target]
  | mountBlob source target _ => [source, target]
  | refuseBlobs _ | refuseManifests _ => []

def perform : Write → Call MemoryRegistry Unit
  | seedBlob repo data => fun m => (.ok (), m.seedBlob repo data)
  | seedManifest target raw => fun m => (.ok (), m.storeManifest target raw)
  | seedImage target kind config layers => fun m => (.ok (), (m.seedImage target kind config layers).2)
  | seedIndex target index => fun m => (.ok (), (m.seedIndex target index).2)
  | putBlob repo d data => registry.putBlob repo d data
  | mountBlob source target d => do let _ ← registry.mountBlob source target d
  | putManifest target raw => registry.putManifest target raw
  | refuseBlobs reason => fun m => (.ok (), { m with blobFailure := some reason })
  | refuseManifests reason => fun m => (.ok (), { m with manifestFailure := some reason })

/-- A call leaves a registry content-addressed and takes nothing away; one that fails leaves it as it
    was. -/
theorem perform_ends (op : Write) (h : ∀ r ∈ op.references, r.IsObtained) {m : MemoryRegistry}
    (hm : ContentAddressed m) :
    op.perform.Ends m (fun _ m' => ContentAddressed m' ∧ Keeps m m') fun _ m' => m' = m := by
  cases op with
  | seedBlob repo data =>
    exact ⟨hm.setBlob repo rfl, (BlobsAdded.setBlob m repo _ data).extended.toKeeps⟩
  | seedManifest target raw =>
    exact ⟨hm.storeManifest (h target List.mem_cons_self) raw, Keeps.storeManifest m target raw⟩
  | seedImage target kind config layers =>
    refine ⟨?_, ?_⟩
    · exact (hm.seedBlobs target _).storeManifest (h target List.mem_cons_self) _
    · exact (BlobsAdded.seedBlobs m target _).extended.toKeeps.trans (Keeps.storeManifest _ target _)
  | seedIndex target index =>
    exact ⟨hm.storeManifest (h target List.mem_cons_self) _, Keeps.storeManifest m target _⟩
  | putBlob repo d data =>
    refine ((putBlob_ends repo d data m).and (putBlob_content repo d data hm)).mono ?_ ?_
    · intro _ _ hdone
      exact ⟨hdone.2, hdone.1.1 ▸ (BlobsAdded.upload m repo d data).extended.toKeeps⟩
    · exact fun _ _ hfail => hfail.1.1
  | mountBlob source target d =>
    have hends := (mountBlob_ends source target d m).and (mountBlob_content source target d hm)
    refine Call.Ends.bind (hends.mono (fun b m' hdone => ?_) fun _ _ hfail => hfail.1.elim)
      fun _ _ hdone => Call.Ends.pure hdone
    refine ⟨hdone.2, ?_⟩
    cases b with
    | true =>
      obtain ⟨⟨data, -, rfl⟩, -⟩ := hdone
      exact (BlobsAdded.setBlob m target d data).extended.toKeeps
    | false => exact hdone.1.1 ▸ Keeps.refl m
  | putManifest target raw =>
    refine (putManifest_ends target raw m).mono ?_ fun _ _ hfail => hfail.1
    rintro _ _ rfl
    exact ⟨hm.publish (h target List.mem_cons_self) raw, Keeps.publish m target raw⟩
  | refuseBlobs reason =>
    exact ⟨⟨hm.blobs, hm.digests, hm.tags, hm.pushed, hm.names⟩, fun _ _ hd => hd, fun _ hr => hr⟩
  | refuseManifests reason =>
    exact ⟨⟨hm.blobs, hm.digests, hm.tags, hm.pushed, hm.names⟩, fun _ _ hd => hd, fun _ hr => hr⟩

end Write

/-- The registry after calls, of which some may have failed. -/
def run (m : MemoryRegistry) (ops : List Write) : MemoryRegistry :=
  ops.foldl (fun m op => (op.perform m).2) m

theorem ContentAddressed.run {m : MemoryRegistry} (hm : ContentAddressed m) {ops : List Write}
    (h : ∀ op ∈ ops, ∀ r ∈ op.references, r.IsObtained) : ContentAddressed (m.run ops) := by
  induction ops generalizing m with
  | nil => exact hm
  | cons op ops ih =>
    refine ih ?_ fun op' hop => h op' (List.mem_cons_of_mem op hop)
    have hends := op.perform_ends (h op List.mem_cons_self) hm
    show ContentAddressed (op.perform m).2
    unfold Call.Ends at hends
    split at hends
    · next heq => rw [heq]; exact hends.1
    · next heq => rw [heq]; exact hends ▸ hm

/-- Whatever calls are made of an empty registry, it is content-addressed, and a manifest is found by
    the text of a reference; no call takes a blob or a manifest away, and one that fails changes
    nothing. -/
theorem contents_of_run {ops : List Write} (h : ∀ op ∈ ops, ∀ r ∈ op.references, r.IsObtained) :
    ContentAddressed (empty.run ops) ∧
      (∀ r : Reference, r.IsObtained →
        (empty.run ops).manifest? r = (empty.run ops).named? r.context r.lookupKey) ∧
      ∀ before op after, ops = before ++ op :: after →
        op.perform.Ends (empty.run before) (fun _ m => Keeps (empty.run before) m)
          fun _ m => m = empty.run before := by
  have hall := ContentAddressed.empty.run h
  refine ⟨hall, fun r hr => manifest?_eq_named? hall.names hr, ?_⟩
  rintro before op after rfl
  have hbefore : ContentAddressed (empty.run before) :=
    ContentAddressed.empty.run fun op' hop => h op' (List.mem_append_left _ hop)
  have hop := h op (List.mem_append_right _ List.mem_cons_self)
  exact (op.perform_ends hop hbefore).mono (fun _ _ hdone => hdone.2) fun _ _ hfail => hfail

namespace Filled

def target : Reference where
  written := "a/b:1"
  name := "a/b"
  registry := "docker.io"
  repository := "a/b"
  tag := some "1"
  digest := none

def other : Reference where
  written := "c:2"
  name := "c"
  registry := "docker.io"
  repository := "library/c"
  tag := some "2"
  digest := none

/-- A manifest with a tag and a blob that is mounted, after which no manifest is taken. -/
def accepted : List Write :=
  [.putManifest target ⟨"m", [0]⟩, .seedBlob target [1],
    .mountBlob target other (Digest.ofBytes [1]), .refuseManifests "full"]

def refused : Write := .putManifest other ⟨"m", [2]⟩

theorem isObtained_target : target.IsObtained :=
  .parsed (show Reference.parse "a/b:1" = .ok target from rfl)

theorem isObtained_other : other.IsObtained :=
  .parsed (show Reference.parse "c:2" = .ok other from rfl)

theorem isObtained : ∀ op ∈ accepted ++ [refused], ∀ r ∈ op.references, r.IsObtained := by
  simp [accepted, refused, Write.references, isObtained_target, isObtained_other]

end Filled

open Filled in
/-- The manifest is found by its tag, and the refused upload leaves the registry as it was. -/
theorem contents_of_run_filled :
    ContentAddressed (empty.run (accepted ++ [refused])) ∧
      (empty.run (accepted ++ [refused])).named? "docker.io/a/b" "1" = some ⟨"m", [0]⟩ ∧
      refused.perform.Ends (empty.run accepted) (fun _ m => Keeps (empty.run accepted) m)
        fun _ m => m = empty.run accepted := by
  obtain ⟨hcontent, htext, hcalls⟩ := contents_of_run isObtained
  have hfound : (empty.run (accepted ++ [refused])).manifest? target = some ⟨"m", [0]⟩ := by
    decide +kernel
  have hcontext : target.context = "docker.io/a/b" := by decide
  have hkey : target.lookupKey = "1" := rfl
  refine ⟨hcontent, ?_, hcalls accepted refused [] rfl⟩
  rw [← hfound, htext target isObtained_target, hcontext, hkey]

end MemoryRegistry

end OciCompose
