import OciCompose.Proofs.Composition
import OciCompose.Proofs.Document

/-
  What an append writes is read again as it was.
  `ReadsBase` are the texts that a registry gives for a base. If they pass on whole numbers only, the
  manifest and the config of the result are read back (`keeps_imageOf`, `keeps_configOf`).
  `pushed_of_append`: what a success has pushed to any registry; `stored_of_append`: where it is then in
  one in memory.
-/

namespace OciCompose

open Json MemoryRegistry

namespace ResolvedBase

theorem bytes_empty : empty.raw.bytes = empty.manifest.bytes := by
  unfold empty
  dsimp only

theorem keeps_empty : empty.manifest.Keeps 122 :=
  ⟨Passes.empty _ _, nofun, Passes.empty _ _⟩

theorem config_keeps_empty : empty.config.Keeps 124 :=
  ⟨fun _ h => by cases h; exact Passes.empty _ _, nofun, Passes.empty _ _⟩

end ResolvedBase

theorem ImageManifest.Keeps.ofBytes? {i : ImageManifest} (h : i.Keeps 122) :
    Decode.ofBytes? ofJson i.bytes = some i := by
  have hback : ReadsBack ofJson toJson maxNesting i := h.readsBack
  exact (Decode.ofBytes?_bytes ofJson i.toJson).trans hback

theorem ImageConfig.Keeps.ofBytes? {c : ImageConfig} (h : c.Keeps 124) :
    Decode.ofBytes? ofJson c.bytes = some c := by
  have hback : ReadsBack ofJson toJson maxNesting c := h.readsBack
  exact (Decode.ofBytes?_bytes ofJson c.toJson).trans hback

namespace Appender

/-! ## What is read -/

section Read

variable {σ : Type} {r : Registry σ} {a : Appender} {s : σ} {base : ResolvedBase} {content : Bytes}

/-- A base with the text of its config, as a registry gives them. The empty base has its own. -/
def ReadsBase (a : Appender) (r : Registry σ) (s : σ) (base : ResolvedBase) (content : Bytes) :
    Prop :=
  (match a.base with
    | none => base = .empty ∧ content = base.config.bytes
    | some b => ∃ s1 s2, r.getManifest b s = (.ok base.raw, s1) ∧
        r.getBlob b base.manifest.config.digest s1 = (.ok content, s2)) ∧
  Decode.ofBytes? ImageManifest.ofJson base.raw.bytes = some base.manifest ∧
  Decode.ofBytes? ImageConfig.ofJson content = some base.config

/-- A base that passes on whole numbers keeps all that it passes on. -/
theorem ReadsBase.keeps (h : a.ReadsBase r s base content)
    (hw : ∀ v ∈ base.manifest.passed, v.Whole) : base.manifest.Keeps 122 :=
  ImageManifest.keeps_of_reads (IsRead.reads (.inr ⟨_, h.2.1⟩)) hw

theorem ReadsBase.config_keeps (h : a.ReadsBase r s base content)
    (hw : ∀ v ∈ base.config.passed, v.Whole) : base.config.Keeps 124 :=
  ImageConfig.keeps_of_reads (IsRead.reads (.inr ⟨_, h.2.2⟩)) hw

/-- A registry in a state gives a base one manifest and one config. -/
theorem ReadsBase.unique {base' : ResolvedBase} {content' : Bytes} (h : a.ReadsBase r s base content)
    (h' : a.ReadsBase r s base' content') :
    base.raw = base'.raw ∧ base.manifest = base'.manifest ∧ base.config = base'.config := by
  obtain ⟨hread, hmanifest, hconfig⟩ := h
  obtain ⟨hread', hmanifest', hconfig'⟩ := h'
  cases hb : a.base with
  | none =>
    rw [hb] at hread hread'
    rw [hread.1, hread'.1]
    exact ⟨rfl, rfl, rfl⟩
  | some b =>
    rw [hb] at hread hread'
    obtain ⟨s1, _, hraw, hblob⟩ := hread
    obtain ⟨s1', _, hraw', hblob'⟩ := hread'
    obtain ⟨hok, hs⟩ := Prod.mk.inj (hraw.symm.trans hraw')
    have hsame := Except.ok.inj hok
    rw [hsame, hmanifest'] at hmanifest
    have hdecoded := Option.some.inj hmanifest
    rw [← hs, hdecoded, hblob] at hblob'
    rw [← Except.ok.inj (Prod.mk.inj hblob').1, hconfig] at hconfig'
    exact ⟨hsame, hdecoded.symm, Option.some.inj hconfig'⟩

theorem readsBase_empty (h : a.base = none) :
    a.ReadsBase r s .empty ResolvedBase.empty.config.bytes := by
  refine ⟨?_, ?_, ResolvedBase.config_keeps_empty.ofBytes?⟩
  · rw [h]
    exact ⟨rfl, rfl⟩
  · rw [ResolvedBase.bytes_empty]
    exact ResolvedBase.keeps_empty.ofBytes?

/-- A base that is fetched is read. -/
theorem fetch_reads {b : Reference} (h : a.base = some b) :
    (ResolvedBase.fetch r b).Ends s (fun base _ => ∃ content, a.ReadsBase r s base content)
      fun _ _ => True := by
  refine fetch_of_reads ((Call.Ends.self (r.getManifest b) s).mono (fun _ _ h => h)
    fun _ _ _ => trivial) (fun _ _ _ => trivial) fun raw manifest s1 hraw hmanifest => ?_
  refine (Call.Ends.self (r.getBlob b manifest.config.digest) s1).mono (fun content s2 hblob => ?_)
    fun _ _ _ => trivial
  refine ⟨trivial, ?_⟩
  rintro base rfl - rfl hconfig
  refine ⟨content, ?_, hmanifest, hconfig⟩
  rw [h]
  exact ⟨s1, s2, hraw, hblob⟩

theorem resolveBase_reads (w : Run σ) :
    (a.resolveBase r).Ends w
      (fun b _ => (∃ content, a.ReadsBase r w.registry b.1 content) ∧
        b.2 = { a with state := some b.1 })
      fun _ _ => True :=
  a.resolveBase_of_base (P := fun base _ => ∃ content, a.ReadsBase r w.registry base content)
    (fun _ => trivial) (fun hb => ⟨_, readsBase_empty hb⟩) fun _ hb => fetch_reads hb

/-- What a registry in memory serves is read from it. -/
theorem Resolves.reads {m : MemoryRegistry} (h : a.Resolves m base) :
    ∃ content, a.ReadsBase registry m base content := by
  unfold Resolves at h
  cases hb : a.base with
  | none =>
    rw [hb] at h
    subst h
    exact ⟨_, readsBase_empty hb⟩
  | some b =>
    rw [hb] at h
    obtain ⟨content, hblob, hread⟩ := h.config
    refine ⟨content, ?_, h.manifest, hread⟩
    rw [hb]
    exact ⟨m, m, getManifest_of_some h.stored, getBlob_of_some hblob⟩

end Read

/-! ## Images that are read back -/

section Images

variable {base : ResolvedBase}

theorem keeps_imageOf (a : Appender) (layers : List Layer) (h : base.manifest.Keeps 122) :
    (a.imageOf base layers).Keeps 122 where
  config := Passes.empty _ _
  layers := by
    intro d hd
    rw [layers_imageOf] at hd
    rcases List.mem_append.1 hd with hd | hd
    · exact h.layers d hd
    · obtain ⟨l, -, rfl⟩ := List.mem_map.1 hd
      exact Passes.empty _ _
  extra := h.extra

theorem extra_configOf (a : Appender) (base : ResolvedBase) (layers : List Layer) :
    (a.configOf base layers).extra = base.config.extra := by
  unfold configOf
  dsimp only
  split <;> rfl

/-- The inner config has all that it had, but for the variables if some are given. -/
theorem config_configOf (a : Appender) (base : ResolvedBase) (layers : List Layer) :
    (a.configOf base layers).config =
      if a.envs.isEmpty then base.config.config
      else some { base.config.config.getD {} with
        env := some (Environment.override base.config.env a.envs) } := by
  unfold configOf
  dsimp only
  split <;> rfl

theorem readsBack_historyEntry : ReadsBack valueOf id 125 historyEntry := by
  unfold ReadsBack
  decide +kernel

theorem keeps_configOf (a : Appender) (layers : List Layer) (h : base.config.Keeps 124) :
    (a.configOf base layers).Keeps 124 where
  config := by
    intro x hx
    rw [config_configOf] at hx
    split at hx
    · exact h.config x hx
    · cases hx
      cases hc : base.config.config with
      | none => exact Passes.empty _ _
      | some c => exact h.config c hc
  history := by
    intro v hv
    rw [(extends_imageOf a base layers).history] at hv
    rcases List.mem_append.1 hv with hv | hv
    · exact h.history v hv
    · obtain ⟨l, -, rfl⟩ := List.mem_map.1 hv
      exact readsBack_historyEntry
  extra := by
    rw [extra_configOf]
    exact h.extra

end Images

/-! ## What is pushed -/

theorem hash_resultOf (a : Appender) (base : ResolvedBase) (layers : List Layer) :
    (a.resultOf base layers).hash = (a.rawOf base layers).digest := by
  unfold resultOf
  dsimp only

theorem configDigest_resultOf (a : Appender) (base : ResolvedBase) (layers : List Layer) :
    (a.resultOf base layers).configDigest = Digest.ofBytes (a.configOf base layers).bytes := by
  unfold resultOf
  dsimp only

/-- After a success the appender knows its base, and has carried out the plan of it. -/
theorem pushed_of_append {σ : Type} {r : Registry σ} {a a' : Appender} {layers : List Layer}
    {w w' : Run σ} {result : AppendResult} (h : a.append r layers w = (.ok result, a', w')) :
    ∃ base, a'.state = some base ∧ result = a.resultOf base layers ∧
      (∃ w1 w2, (a.plan base layers).push r w1 = (.ok (), w2) ∧ w2.registry = w'.registry) ∧
      (a.state = some base ∨
        a.state = none ∧ ∃ content, a.ReadsBase r w.registry base content) := by
  have hcompose : ∀ (b : Appender) known w1, (b.compose r known layers).Ends w1
      (fun result s => result = b.resultOf known layers ∧
        ∃ w2, (b.plan known layers).push r w1 = (.ok (), w2) ∧ w2.registry = s)
      fun _ _ => True := by
    intro b known w1
    refine b.compose_ends_of_push known layers
      ((Call.Ends.self ((b.plan known layers).push r) w1).mono ?_ fun _ _ _ => trivial)
    exact fun _ w2 hpush => ⟨w2, hpush, rfl⟩
  unfold append at h
  cases hstate : a.state with
  | some known =>
    rw [hstate] at h
    dsimp only at h
    rcases hrun : a.compose r known layers w with ⟨x, w2⟩
    rw [hrun] at h
    cases h
    obtain ⟨hresult, hpush⟩ := (hcompose a known w).ok hrun
    exact ⟨known, hstate, hresult, ⟨w, hpush⟩, .inl rfl⟩
  | none =>
    rw [hstate] at h
    dsimp only at h
    rcases hresolve : a.resolveBase r w with ⟨_ | ⟨known, b⟩, w1⟩
    · rw [hresolve] at h
      cases h
    · rw [hresolve] at h
      dsimp only at h
      obtain ⟨hreads, hb⟩ := (resolveBase_reads w).ok hresolve
      rcases hrun : b.compose r known layers w1 with ⟨x, w2⟩
      rw [hrun] at h
      cases h
      dsimp only at hb hreads
      subst hb
      obtain ⟨hresult, hpush⟩ := (hcompose _ known w1).ok hrun
      exact ⟨known, rfl, hresult, ⟨w1, hpush⟩, .inr ⟨rfl, hreads⟩⟩

/-- If an appender knows its base, that is the one that the registry has. -/
def UpToDate (a : Appender) (m : MemoryRegistry) : Prop :=
  ∀ base, a.state = some base → a.Resolves m base

/-- What a successful append has stored: the manifest under its digest, and the config. -/
theorem stored_of_append {a a' : Appender} {layers : List Layer} {w w' : Run MemoryRegistry}
    {result : AppendResult} {base : ResolvedBase} (hbase : a.Resolves w.registry base)
    (hnow : a.UpToDate w.registry) (h : a.append registry layers w = (.ok result, a', w')) :
    result = a.resultOf base layers ∧
      w'.registry.manifest? (a.tag.withDigest (a.rawOf base layers).digest) =
        some (a.rawOf base layers) ∧
      w'.registry.blob? a.tag (Digest.ofBytes (a.configOf base layers).bytes) =
        some (a.configOf base layers).bytes := by
  obtain ⟨b, hb, hresult, hpushed, hconfig⟩ := (run_starts_from a layers w).ok (run_of_append h)
  have hb : a.Resolves w.registry b := by
    rcases hb with hstate | ⟨-, hb⟩
    · exact hnow b hstate
    · exact hb
  obtain rfl := hbase.unique hb
  obtain ⟨n, -, hpublished⟩ := hpushed.published
  rw [manifest_plan] at hpublished
  refine ⟨hresult, ?_, hconfig⟩
  have hfound := manifest?_publish n (a.plan base layers).target (a.rawOf base layers)
  rw [← hpublished] at hfound
  unfold manifest? at hfound ⊢
  rw [← hfound]
  exact congrArg (fun c => w'.registry.manifests.get? (c, _)) (context_target a _).symm

end Appender

end OciCompose
