import OciCompose.Proofs.Dialect
import OciCompose.Proofs.Environment.Variables
import OciCompose.Proofs.Transfer

/-
  The environments of the images that a build uploads.
  `Yields` says which manifests a build uploads: an image, or images and then the index of these.
  `BuiltOn` says on which bases it does so: on none, on the configured one, or on the eligible entries of
  that, if it is an index. Each image has the environment of its base with the configured variables
  (`yields_of_append`), so `variables_of_append`: what a lookup finds there.
  `variables_of_append_glued`: a name with an equals sign is accepted, and a variable before it then
  loses its value.
-/

namespace OciCompose

open Json

/-! ## Configs that are uploaded -/

/-- The config that an image on some base goes on from: that of the base, as it was read, or the empty
    one if there is no base. -/
inductive StartedFrom (log : List Transfer) : Option Reference → ImageConfig → Prop
  | read {base : Reference} {raw : RawManifest} {manifest : ImageManifest} {content : Bytes}
      {config : ImageConfig} (manifestFrom : .manifestFrom base raw ∈ log)
      (isManifest : Decode.ofBytes? ImageManifest.ofJson raw.bytes = some manifest)
      (blobFrom : .blobFrom base manifest.config.digest content ∈ log)
      (isConfig : Decode.ofBytes? ImageConfig.ofJson content = some config) :
      StartedFrom log (some base) config
  | empty : StartedFrom log none .empty

/-- An image was uploaded, and the config that it names to the same place. -/
structure UploadedWith (log : List Transfer) (raw : RawManifest) (config : ImageConfig) : Prop where
  names : ∃ image : ImageManifest, raw.bytes = image.bytes ∧
    image.config.digest = Digest.ofBytes config.bytes
  uploaded : ∃ target, .blobTo target (Digest.ofBytes config.bytes) config.bytes ∈ log ∧
    .manifestTo target raw ∈ log

/-- An image was uploaded whose environment is that of its base with some overrides. -/
def Configured (envs : List String) (log : List Transfer) (base : Option Reference)
    (raw : RawManifest) : Prop :=
  ∃ initial config, StartedFrom log base initial ∧ UploadedWith log raw config ∧
    config.env = Environment.override initial.env envs

/-- The bases of the images that a build uploads, in order: none, the configured one if it was read as
    an image, or the eligible entries of the configured one if it was read as an index. -/
inductive BuiltOn (c : BuildConfig) (log : List Transfer) : List (Option Reference) → Prop
  | nothing (unnamed : ¬ c.NamesBase) : BuiltOn c log [none]
  | image {base : Reference} {raw : RawManifest} (named : c.NamesBase)
      (parsed : Reference.parse c.base = .ok base) (manifestFrom : .manifestFrom base raw ∈ log)
      (isImage : raw.kind.isIndex = false) : BuiltOn c log [some base]
  | entries {base : Reference} {raw : RawManifest} {index : ImageIndex} {matcher : PlatformMatcher}
      (named : c.NamesBase) (parsed : Reference.parse c.base = .ok base)
      (manifestFrom : .manifestFrom base raw ∈ log) (kind : raw.kind = .ociIndex)
      (isIndex : Decode.ofBytes? ImageIndex.ofJson raw.bytes = some index)
      (platforms : PlatformMatcher.ofTexts c.platforms = .ok matcher) :
      BuiltOn c log ((index.eligible matcher).map fun d => some (base.withDigest d.digest))

/-- What a build uploaded: one image, or some images and then an index of exactly these. The hash is
    that of the last manifest. -/
inductive Yields (log : List Transfer) (hash : Option Digest) : List RawManifest → Prop
  | image {raw : RawManifest} (uploaded : uploads log = [raw]) (named : hash = some raw.digest) :
      Yields log hash [raw]
  | index {images : List RawManifest} {i : ImageIndex} (ne_nil : images ≠ [])
      (uploaded : uploads log = images ++ [i.snapshot])
      (children : i.manifests.map Descriptor.digest = images.map RawManifest.digest)
      (named : hash = some i.snapshot.digest) : Yields log hash images

theorem Yields.ne_nil {log : List Transfer} {hash : Option Digest} {images : List RawManifest}
    (h : Yields log hash images) : images ≠ [] := by
  cases h with
  | image _ _ => exact List.cons_ne_nil _ _
  | index ne_nil _ _ _ => exact ne_nil

section Growth

variable {envs : List String} {images : List RawManifest} {log log' : List Transfer}
  {base : Option Reference}

theorem StartedFrom.mono {config : ImageConfig} (h : StartedFrom log base config)
    (hgrows : Grows images log log') : StartedFrom log' base config := by
  cases h with
  | read manifestFrom isManifest blobFrom isConfig =>
    exact .read (hgrows.mem manifestFrom) isManifest (hgrows.mem blobFrom) isConfig
  | empty => exact .empty

theorem UploadedWith.mono {raw : RawManifest} {config : ImageConfig}
    (h : UploadedWith log raw config) (hgrows : Grows images log log') :
    UploadedWith log' raw config := by
  obtain ⟨target, hblob, hmanifest⟩ := h.uploaded
  exact ⟨h.names, target, hgrows.mem hblob, hgrows.mem hmanifest⟩

theorem Configured.mono {raw : RawManifest} (h : Configured envs log base raw)
    (hgrows : Grows images log log') : Configured envs log' base raw := by
  obtain ⟨initial, config, hinitial, hconfig, henv⟩ := h
  exact ⟨initial, config, hinitial.mono hgrows, hconfig.mono hgrows, henv⟩

end Growth

theorem Environment.override_nil (existing : List String) : override existing [] = existing := by
  simp [override, wanted]

theorem Appender.env_configOf (a : Appender) (base : ResolvedBase) (layers : List Layer) :
    (a.configOf base layers).env = Environment.override base.config.env a.envs := by
  rw [ImageConfig.env, config_configOf]
  split
  · next hempty =>
    rw [List.isEmpty_iff.1 hempty, Environment.override_nil]
    rfl
  · rfl

/-! ## What a build uploads -/

section Builds

variable {σ : Type} {r : Registry σ} {layers : List Layer}

theorem fetch_noting (b : Reference) (s : σ × List Transfer) :
    (ResolvedBase.fetch r.noting b).Ends s
      (fun base s' => Grows [] s.2 s'.2 ∧ StartedFrom s'.2 (some b) base.config)
      fun _ _ => True := by
  refine Appender.fetch_of_reads (noting_ends _ _ s) (fun _ _ _ => trivial)
    fun raw manifest s1 h1 hmanifest => ?_
  refine (noting_ends _ _ s1).mono (fun content s2 h2 => ⟨trivial, ?_⟩) fun _ _ h => h
  rintro base rfl - rfl hconfig
  have hread : Grows [] s.2 s1.2 := h1 ▸ Grows.append s.2 [.manifestFrom b base.raw]
  have hblob : Grows [] s1.2 s2.2 :=
    h2 ▸ Grows.append s1.2 [.blobFrom b base.manifest.config.digest content]
  have hraw : .manifestFrom b base.raw ∈ s1.2 := h1 ▸ List.mem_concat_self
  have hcontent : .blobFrom b base.manifest.config.digest content ∈ s2.2 := h2 ▸ List.mem_concat_self
  exact ⟨hread.quiet hblob, .read (hblob.mem hraw) hmanifest hcontent hconfig⟩

namespace Appender

theorem resolveBase_noting (a : Appender) (w : Run (σ × List Transfer)) :
    (a.resolveBase r.noting).Ends w
      (fun b s' => b.2.state = some b.1 ∧ b.2.envs = a.envs ∧ Grows [] w.registry.2 s'.2 ∧
        StartedFrom s'.2 a.base b.1.config) fun _ _ => True := by
  refine (a.resolveBase_of_base
    (P := fun base s' => Grows [] w.registry.2 s'.2 ∧ StartedFrom s'.2 a.base base.config)
    (F := fun _ _ => True) (fun _ => trivial) (fun hbase => ?_) fun b hbase => ?_).mono
    ?_ fun _ _ h => h
  · rw [hbase]
    exact ⟨Grows.refl _, .empty⟩
  · rw [hbase]
    exact fetch_noting b w.registry
  · rintro b s' ⟨⟨hgrows, hstarted⟩, hb⟩
    exact ⟨by rw [hb], by rw [hb], hgrows, hstarted⟩

theorem compose_noting (a : Appender) {base : ResolvedBase} {origin : Option Reference}
    (w : Run (σ × List Transfer)) (hbase : StartedFrom w.registry.2 origin base.config) :
    (a.compose r.noting base layers).Ends w
      (fun result s' => result = a.resultOf base layers ∧
        Grows [a.rawOf base layers] w.registry.2 s'.2 ∧
        Configured a.envs s'.2 origin (a.rawOf base layers)) fun _ _ => True := by
  refine a.compose_ends_of_push base layers
    ((push_noting (a.plan base layers) (a.blobs_plan base layers) w).mono ?_ fun _ _ h => h)
  rintro - s' ⟨hgrows, hblob, hmanifest⟩
  rw [a.manifest_plan] at hgrows hmanifest
  refine ⟨hgrows, base.config, a.configOf base layers, hbase.mono hgrows, ⟨?_, _, hblob, hmanifest⟩,
    a.env_configOf base layers⟩
  exact ⟨a.imageOf base layers, a.bytes_rawOf base layers,
    by rw [(a.extends_imageOf base layers).config]⟩

/-- An appender that does not know its base yet uploads one image on that. -/
theorem run_noting (a : Appender) (ha : a.state = none) (w : Run (σ × List Transfer)) :
    (a.run r.noting layers).Ends w
      (fun result s' => ∃ raw, result.descriptor.digest = raw.digest ∧
        Grows [raw] w.registry.2 s'.2 ∧ Configured a.envs s'.2 a.base raw) fun _ _ => True := by
  rw [a.run_of_unresolved r.noting layers ha]
  refine Build.Ends.bind (resolveBase_noting a w) ?_
  rintro ⟨base, b⟩ w1 ⟨-, henvs, hgrows, hstarted⟩
  refine (compose_noting b w1 hstarted).mono ?_ fun _ _ h => h
  rintro _ s' ⟨rfl, himage, hconfigured⟩
  rw [← henvs]
  exact ⟨_, rfl, hgrows.trans himage, hconfigured⟩

end Appender

namespace IndexAssembler

theorem select_noting (base : Reference) (raw : RawManifest) (m : PlatformMatcher)
    (w : Run (σ × List Transfer)) :
    (select r.noting base raw m).Ends w
      (fun a s' => Grows [] w.registry.2 s'.2 ∧ a.canvas.manifests = [] ∧ a.children ≠ [] ∧
        raw.kind = .ociIndex ∧ ∃ index, Decode.ofBytes? ImageIndex.ofJson raw.bytes = some index ∧
          a.children.map (fun child => some child.base) =
            (index.eligible m).map fun d => some (base.withDigest d.digest))
      fun _ _ => True := by
  refine (select_of_reads (I := fun s' => Grows [] w.registry.2 s'.2) (F := fun _ => True)
    (C := fun _ => True) (fun _ _ => trivial) (fun ref s hs => ?_) base raw m (Grows.refl _)).mono
    ?_ fun _ _ h => h
  · refine (noting_ends _ _ s).mono (fun raw s' h => ⟨hs.quiet ?_, fun _ => trivial⟩) fun _ _ h => h
    exact h ▸ Grows.append s.2 [.manifestFrom ref raw]
  · rintro _ s' ⟨hs', -, hkind, ⟨index, hindex, rfl⟩, -, hne⟩
    exact ⟨hs', rfl, hne, hkind, index, hindex, map_childrenOf (fun _ _ => rfl) index m⟩

/-- Each child uploads one image on its own base, in order. -/
theorem composeChildren_noting (each : LayerAppend) (tag : Reference)
    (children : List SelectedChild) (w : Run (σ × List Transfer)) :
    (composeChildren (each.append r.noting tag) children).Ends w
      (fun composed s' => ∃ images,
        composed.map (fun x => x.1.digest) = images.map RawManifest.digest ∧
        Grows images w.registry.2 s'.2 ∧
        List.Forall₂ (Configured each.envs s'.2) (children.map fun child => some child.base) images)
      fun _ _ => True := by
  induction children generalizing w with
  | nil => exact Build.Ends.pure ⟨[], rfl, Grows.refl _, .nil⟩
  | cons child rest ih =>
    unfold composeChildren
    split
    · exact Build.Ends.throw trivial
    have hchild : Build.Ends (each.append r.noting tag child) w
        (fun result s' => ∃ raw, result.descriptor.digest = raw.digest ∧
          Grows [raw] w.registry.2 s'.2 ∧ Configured each.envs s'.2 (some child.base) raw)
        fun _ _ => True :=
      Appender.run_noting (each.appender child tag) rfl w
    refine Build.Ends.bind (Build.Ends.reporting hchild) ?_
    rintro result w1 ⟨raw, hdigest, hgrows, hconfigured⟩
    refine Build.Ends.bind (ih w1) ?_
    rintro others w2 ⟨images, hdigests, hgrows', hall⟩
    refine Build.Ends.pure ⟨raw :: images, ?_, hgrows.trans hgrows',
      .cons (hconfigured.mono hgrows') hall⟩
    rw [List.map_cons, List.map_cons, hdigests, ← hdigest]
    rfl

theorem push_noting (a : IndexAssembler) (hcanvas : a.canvas.manifests = [])
    (hchildren : a.children ≠ []) (each : LayerAppend) (tag : Reference) (baseRef : String)
    {w : Run (σ × List Transfer)} (hw : uploads w.registry.2 = []) :
    (a.push r.noting (each.append r.noting tag) tag baseRef).Ends w
      (fun out s' => w.registry.2 <+: s'.2 ∧ ∃ images, Yields s'.2 out.artifact.hash images ∧
        List.Forall₂ (Configured each.envs s'.2) (a.children.map fun child => some child.base) images)
      fun _ _ => True := by
  unfold push
  refine Build.Ends.bind (composeChildren_noting each tag a.children w) ?_
  rintro composed w1 ⟨images, hdigests, hgrows, hall⟩
  have hne : images ≠ [] := fun hnil => by
    rw [hnil] at hall
    exact hchildren (List.map_eq_nil_iff.1 (List.forall₂_nil_right_iff.1 hall))
  dsimp only
  refine Build.Ends.bind (Build.Ends.call (noting_ends _ _ w1.registry)) fun _ w2 h2 => ?_
  have hindex : Grows _ w1.registry.2 w2.registry.2 :=
    h2 ▸ Grows.append w1.registry.2 [.manifestTo tag _]
  refine Build.Ends.bind (Q := fun _ s' => s' = w2.registry) (Build.Ends.report rfl) ?_
  intro _ w3 h3
  rw [← h3] at hindex
  refine Build.Ends.pure ⟨(hgrows.trans hindex).isPrefix, images, .index hne ?_ ?_ rfl,
    hall.imp fun _ _ h => h.mono hindex⟩
  · rw [hindex.uploads, hgrows.uploads, hw]
    rfl
  · rw [hcanvas, List.nil_append, List.map_map, ← hdigests]
    rfl

end IndexAssembler

namespace Build

theorem appendSingle_noting (a : Appender) (baseRef : String) {w : Run (σ × List Transfer)}
    (hw : uploads w.registry.2 = []) :
    (appendSingle r.noting a layers baseRef).Ends w
      (fun artifact s' => w.registry.2 <+: s'.2 ∧ ∃ images, Yields s'.2 artifact.hash images ∧
        List.Forall₂ (Configured a.envs s'.2) [a.base] images) fun _ _ => True := by
  unfold appendSingle
  refine Build.Ends.bind (a.resolveBase_noting w) ?_
  rintro ⟨base, b⟩ w1 ⟨hb, henvs, hgrows, hstarted⟩
  have hrun := Appender.run_of_state b r.noting layers hb
  refine Build.Ends.bind (b := Appender.run b r.noting layers)
    (hrun ▸ b.compose_noting w1 hstarted) ?_
  rintro result w2 ⟨rfl, himage, hconfigured⟩
  rw [← henvs]
  have hboth := hgrows.trans himage
  refine Build.Ends.pure ⟨hboth.isPrefix, _, .image ?_ rfl, .cons hconfigured .nil⟩
  rw [hboth.uploads, hw]
  rfl

theorem append_noting_ends (c : BuildConfig) (layers : List Layer) {w : Run (σ × List Transfer)}
    (hw : uploads w.registry.2 = []) :
    (append r.noting c layers).Ends w
      (fun artifact s' => ∃ images bases, Yields s'.2 artifact.hash images ∧ BuiltOn c s'.2 bases ∧
        List.Forall₂ (Configured c.envPairs s'.2) bases images) fun _ _ => True := by
  have hkeep : ∀ {α : Type} (x : Except Error α) {w : Run (σ × List Transfer)},
      uploads w.registry.2 = [] →
      Build.Ends (ofExcept x) w (fun a s' => uploads s'.2 = [] ∧ x = .ok a) fun _ _ => True :=
    fun _ _ h => Build.Ends.ofExcept (fun _ hx => ⟨h, hx⟩) fun _ _ => trivial
  unfold append
  refine Build.Ends.bind (hkeep _ hw) fun tag w1 h1 => ?_
  refine Build.Ends.bind (hkeep _ h1.1) fun matcher w2 h2 => ?_
  dsimp only
  split
  · next hempty =>
    refine Build.Ends.bind (Q := fun _ s' => uploads s'.2 = []) (Build.Ends.reportAll h2.1) ?_
    refine fun _ w3 h3 => (appendSingle_noting _ _ h3).mono ?_ fun _ _ h => h
    rintro artifact s' ⟨-, images, hyields, hall⟩
    exact ⟨images, _, hyields, .nothing fun hnamed => hnamed hempty, hall⟩
  next hnamed =>
  refine Build.Ends.bind (hkeep _ h2.1) fun base w3 h3 => ?_
  refine Build.Ends.bind (Build.Ends.call (noting_ends _ _ w3.registry)) fun raw w4 h4 => ?_
  have hread : Grows [] w3.registry.2 w4.registry.2 := h4 ▸ Grows.append _ [.manifestFrom base raw]
  have hnone : uploads w4.registry.2 = [] := by rw [hread.uploads, h3.1]; rfl
  have hraw : .manifestFrom base raw ∈ w4.registry.2 := h4 ▸ List.mem_concat_self
  split
  · split
    · exact Build.Ends.bind (Q := fun _ _ => False) (Build.Ends.throw trivial) fun _ _ h => h.elim
    refine Build.Ends.bind (IndexAssembler.select_noting base raw matcher w4) ?_
    rintro a w5 ⟨h5, hcanvas, hchildren, hkind, index, hindex, hbases⟩
    have hnone' : uploads w5.registry.2 = [] := by rw [h5.uploads, hnone]; rfl
    refine Build.Ends.bind (IndexAssembler.push_noting a hcanvas hchildren _ tag c.base hnone') ?_
    rintro out w6 ⟨hkept, images, hyields, hall⟩
    rw [hbases] at hall
    exact Build.Ends.pure ⟨images, _, hyields,
      .entries hnamed h3.2 (hkept.subset (h5.mem hraw)) hkind hindex h2.2, hall⟩
  · next hkind =>
    refine Build.Ends.bind (Q := fun _ s' => uploads s'.2 = [] ∧ w4.registry.2 <+: s'.2)
      (Build.Ends.reportAll ⟨hnone, List.prefix_rfl⟩) ?_
    rintro _ w5 ⟨h5, hgrows⟩
    refine (appendSingle_noting _ _ h5).mono ?_ fun _ _ h => h
    rintro artifact s' ⟨hkept, images, hyields, hall⟩
    exact ⟨images, _, hyields, .image hnamed h3.2 (hkept.subset (hgrows.subset hraw))
      (Bool.not_eq_true _ ▸ hkind), hall⟩

/-- A build that succeeds yields images whose environments are those of their bases, with the configured
    variables. -/
theorem yields_of_append {c : BuildConfig} {layers : List Layer} {w w' : Run σ} {artifact : Artifact}
    (h : append r c layers w = (.ok artifact, w')) :
    ∃ images bases, Yields (transfers r c layers w) artifact.hash images ∧
      BuiltOn c (transfers r c layers w) bases ∧
      List.Forall₂ (Configured c.envPairs (transfers r c layers w)) bases images := by
  obtain ⟨v, hv, hlog⟩ := append_noting h
  rw [← hlog]
  exact (append_noting_ends c layers rfl).ok hv

/-- Whatever the registry, a build that succeeds has uploaded an image for each of its bases, with a
    config whose environment is that of the base with the configured variables: a variable without an
    equals sign in its name has its value, expanded by the environment of the base, if no later one has
    its name, or its name and an equals sign at the front. Nothing can be found under a name with an
    equals sign: such a variable gives its value, and the rest of its name, to what stands before
    that. -/
theorem variables_of_append {c : BuildConfig} {layers : List Layer} {w w' : Run σ} {artifact : Artifact}
    (h : append r c layers w = (.ok artifact, w')) :
    ∃ images bases, Yields (transfers r c layers w) artifact.hash images ∧
      BuiltOn c (transfers r c layers w) bases ∧
      List.Forall₂ (fun base raw => ∃ initial config,
        StartedFrom (transfers r c layers w) base initial ∧
        UploadedWith (transfers r c layers w) raw config ∧
        (∀ before v after, c.env = before ++ v :: after → v.name ≠ "" →
          ('=' ∉ v.name.toList →
            (∀ later ∈ after, later.name ≠ v.name ∧ ∀ rest, later.name ≠ v.name ++ "=" ++ rest) →
            Environment.lookup config.env v.name =
              some (Environment.expand (Environment.lookup initial.env) v.value)) ∧
          ('=' ∈ v.name.toList → Environment.lookup config.env v.name = none)) ∧
        Carries c.env initial.env config.env) bases images := by
  obtain ⟨images, bases, hyields, hbases, hall⟩ := yields_of_append h
  refine ⟨images, bases, hyields, hbases, hall.imp ?_⟩
  rintro base raw ⟨initial, config, hinitial, hconfig, henv⟩
  have hcarries : Carries c.env initial.env config.env := henv ▸ carries_override c.env initial.env
  refine ⟨initial, config, hinitial, hconfig, fun before v after hsplit hname => ⟨?_, ?_⟩, hcarries⟩
  · exact fun hequals hlater => hcarries.named hsplit hname hequals hlater
  · exact Environment.lookup_of_equals_mem

end Build

end Builds

/-! ## A name with an equals sign -/

namespace TwoChildren

open Build Environment MemoryRegistry

/-- An image on no base with two variables, of which the second reads as one for the first's key. -/
def glued : BuildConfig := { tag := "r.io/c:v", env := [⟨"A", "1"⟩, ⟨"A=B", "2"⟩] }

theorem append_glued :
    ∃ artifact w', append registry glued [] { registry := .empty } = (.ok artifact, w') := by
  obtain ⟨tag, htag⟩ : ∃ tag, Reference.parse glued.tag = .ok tag := ⟨_, rfl⟩
  have hbase : Base? glued none := rfl
  have hresolves : (glued.appender tag none).Resolves .empty .empty := rfl
  refine append_ok_of_not_blocked htag rfl hbase hresolves ?_
  exact Appender.not_blocked _ [] rfl rfl fun r hr => by cases hr

/-- The configuration is accepted, and yet neither variable has its value. -/
theorem variables_of_append_glued : glued.validate = .ok () ∧ ∃ artifact w' raw config,
    append registry glued [] { registry := .empty } = (.ok artifact, w') ∧
    UploadedWith (transfers registry glued [] { registry := .empty }) raw config ∧
    lookup config.env "A" = some "B=2" ∧ lookup config.env "A=B" = none := by
  obtain ⟨artifact, w', happend⟩ := append_glued
  obtain ⟨images, bases, hyields, -, hall⟩ := variables_of_append happend
  cases hall with
  | nil => exact (hyields.ne_nil rfl).elim
  | @cons base raw _ _ himage _ =>
    obtain ⟨initial, config, -, hconfig, hvariables, hcarries⟩ := himage
    refine ⟨by rfl, artifact, w', raw, config, happend, hconfig, ?_, ?_⟩
    · have hgives : EnvVar.Gives ⟨"A=B", "2"⟩ "A" ("B" ++ "=" ++ "2") :=
        .cut (by decide) (by decide) (by decide)
      rw [hcarries.set [⟨"A", "1"⟩] ⟨"A=B", "2"⟩ [] "A" _ rfl hgives nofun,
        expand_of_not_mem (by decide)]
      decide
    · exact (hvariables [⟨"A", "1"⟩] ⟨"A=B", "2"⟩ [] rfl (by decide)).2 (by decide)

end TwoChildren

end OciCompose
