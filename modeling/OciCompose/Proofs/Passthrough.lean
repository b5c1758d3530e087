import OciCompose.Proofs.Json.Members
import OciCompose.Proofs.Provenance
import OciCompose.Proofs.ReadBack

/-
  Members that are passed through.
  The tree of a manifest or config shows what its decoded form passes on (`Shown`), whether it is the
  text of a base or of a result. `untouched_by_append` compares the two: an append leaves everything as
  it is that it does not compose.
-/

namespace OciCompose

open Json MemoryRegistry

/-! ## What trees show -/

/-- A tree shows what a descriptor passes on. -/
def Descriptor.Shown (r : Raw) (d : Descriptor) : Prop :=
  ∀ k ∉ known, r.value? k = (d.extra.get? k).map some

theorem Descriptor.shown_of_ofJson {room : Nat} {r : Raw} {d : Descriptor}
    (hroom : room ≤ maxNesting) (h : ofJson (room + 1) r = some d) : Shown r d := by
  simp only [ofJson, bind, Option.bind_eq_some_iff, Option.some.injEq] at h
  obtain ⟨⟨room', ms⟩, hms, mediaType, -, digest, -, size, -, platform, -, annotations, -, extra,
    hextra, rfl⟩ := h
  cases room_of_members hms
  exact fun k hk => value?_of_others (sees_of_members hms) hroom hextra hk

/-- A tree shows what an image passes on. -/
structure ImageManifest.Shown (r : Raw) (m : ImageManifest) : Prop where
  extra : ∀ k ∉ known, r.value? k = (m.extra.get? k).map some
  layers : ∀ i : Nat, Option.Rel Descriptor.Shown (r.items "layers")[i]? m.layers[i]?
  annotations : ∀ k : String, ((r.last? "annotations").bind fun x => x.value? k) =
    (m.annotations.bind fun a => a.get? k).map fun s => some (.string s)

theorem ImageManifest.shown_of_ofJson {r : Raw} {m : ImageManifest}
    (h : ofJson maxNesting r = some m) : Shown r m := by
  simp only [ofJson, bind, Option.bind_eq_some_iff, Option.some.injEq] at h
  obtain ⟨⟨room', ms⟩, hms, schemaVersion, -, mediaType, -, config, -, layers, hlayers, annotations,
    hannotations, extra, hextra, rfl⟩ := h
  obtain rfl : room' = 126 := room_of_members hms
  have hsees := sees_of_members hms
  have hroom : 126 ≤ maxNesting := by decide
  refine ⟨fun k hk => value?_of_others hsees hroom hextra hk, fun i => ?_,
    value?_of_annotations hsees (by decide) hannotations⟩
  have hitems : (r.items "layers").map (Descriptor.ofJson 125) = layers.map some :=
    items_of_defaulted hsees (by decide) hlayers
  have hi := congrArg (fun l => l[i]?) hitems
  dsimp only at hi ⊢
  rw [List.getElem?_map, List.getElem?_map] at hi
  cases hx : (r.items "layers")[i]? with
  | none =>
    rw [hx] at hi
    rw [Option.map_eq_none_iff.1 hi.symm]
    exact Option.Rel.none
  | some x =>
    rw [hx] at hi
    obtain ⟨d, hd, hxd⟩ := Option.map_eq_some_iff.1 hi.symm
    rw [hd]
    exact Option.Rel.some (Descriptor.shown_of_ofJson (by decide) hxd.symm)

/-- A tree shows what the inner config of an image passes on, and its variables. -/
structure ContainerConfig.Shown (r : Raw) (c : ContainerConfig) : Prop where
  extra : ∀ k ∉ ["Env"], r.value? k = (c.extra.get? k).map some
  env : (r.value? "Env").filter (· ≠ some .null) = c.env.map fun l => some (.array (l.map .string))

theorem ContainerConfig.shown_of_ofJson {room : Nat} {r : Raw} {c : ContainerConfig}
    (hroom : room ≤ maxNesting) (h : ofJson (room + 1) r = some c) : Shown r c := by
  simp only [ofJson, bind, Option.bind_eq_some_iff, Option.some.injEq] at h
  obtain ⟨⟨room', ms⟩, hms, env, henv, extra, hextra, rfl⟩ := h
  cases room_of_members hms
  have hsees := sees_of_members hms
  exact ⟨fun k hk => value?_of_others hsees hroom hextra hk,
    value?_of_texts hsees (by decide) henv⟩

theorem ContainerConfig.object_of_ofJson {room : Nat} {r : Raw} {c : ContainerConfig}
    (h : ofJson room r = some c) : ∃ ms, r = .object ms := by
  simp only [ofJson, bind, Option.bind_eq_some_iff, Option.some.injEq] at h
  obtain ⟨⟨room', ms⟩, hms, -⟩ := h
  exact ⟨_, (members_eq_some hms).2.1⟩

/-- A tree shows what the config of an image passes on. -/
structure ImageConfig.Shown (r : Raw) (c : ImageConfig) : Prop where
  extra : ∀ k ∉ known, r.value? k = (c.extra.get? k).map some
  config : Option.Rel ContainerConfig.Shown (r.object? "config") c.config

theorem ImageConfig.shown_of_ofJson {r : Raw} {c : ImageConfig}
    (h : ofJson maxNesting r = some c) : Shown r c := by
  simp only [ofJson, bind, Option.bind_eq_some_iff, Option.some.injEq] at h
  obtain ⟨⟨room', ms⟩, hms, architecture, -, os, -, variant, -, config, hconfig, rootfs, -, history,
    -, extra, hextra, rfl⟩ := h
  obtain rfl : room' = 126 := room_of_members hms
  have hsees := sees_of_members hms
  have hroom : 126 ≤ maxNesting := by decide
  refine ⟨fun k hk => value?_of_others hsees hroom hextra hk, ?_⟩
  have hobject := object?_of_optional hsees (by decide)
    (fun _ _ => ContainerConfig.object_of_ofJson) hconfig
  dsimp only at hobject ⊢
  generalize r.object? "config" = o at hobject ⊢
  cases hobject with
  | none => exact Option.Rel.none
  | some hx =>
    have hinner : 125 ≤ maxNesting := by decide
    exact Option.Rel.some (ContainerConfig.shown_of_ofJson hinner hx)

/-! ## What an append leaves as it is -/

namespace Json

/-- The value of an annotation of a manifest. -/
def Raw.annotation? (r : Raw) (k : String) : Option (Option Value) :=
  (r.last? "annotations").bind fun x => x.value? k

/-- The variables that a config sets. Null is as good as none. -/
def Raw.env? (r : Raw) : Option (Option Value) :=
  (r.object? "config").bind fun x => (x.value? "Env").filter (· ≠ some .null)

/-- Outside some names two trees have the same members, with the same values. -/
def SameOutside (known : List String) (r r' : Raw) : Prop :=
  ∀ k ∉ known, ∃ v : Option Value, r.value? k = v.map some ∧ r'.value? k = v.map some

end Json

/-- What an append with some variables leaves as it is in a manifest `r` and its config `c`. -/
structure Untouched (envs : List String) (r c r' c' : Raw) : Prop where
  manifest : SameOutside ImageManifest.known r r'
  layers : ∀ (i : Nat) (l : Raw), (r.items "layers")[i]? = some l →
    ∃ l', (r'.items "layers")[i]? = some l' ∧ SameOutside Descriptor.known l l'
  annotations : ∀ k, k ≠ Provenance.nameKey → k ≠ Provenance.digestKey →
    r'.annotation? k = r.annotation? k
  config : SameOutside ImageConfig.known c c'
  inner : ∀ x, c.object? "config" = some x →
    ∃ x', c'.object? "config" = some x' ∧ SameOutside ["Env"] x x'
  env : envs = [] → c'.env? = c.env?

namespace Appender

variable {base : ResolvedBase}

theorem annotations_imageOf (a : Appender) (base : ResolvedBase) (layers : List Layer) {k : String}
    (hname : k ≠ Provenance.nameKey) (hdigest : k ≠ Provenance.digestKey) :
    ((a.imageOf base layers).annotations.bind fun x => x.get? k) =
      base.manifest.annotations.bind fun x => x.get? k := by
  unfold imageOf manifestOf
  dsimp only
  split
  · next p _ _ _ =>
    show (p.annotate _ _).get? k = _
    rw [p.get?_annotate _ _ hname hdigest]
    cases base.manifest.annotations with
    | none => rw [Option.getD_none, SortedMap.get?_empty]; rfl
    | some x => rfl
  · rfl

theorem env_of_shown {r : Raw} {c : ImageConfig} (h : ImageConfig.Shown r c) :
    r.env? = (c.config.bind ContainerConfig.env).map fun l => some (.array (l.map .string)) := by
  have hconfig := h.config
  unfold Raw.env?
  generalize r.object? "config" = o at hconfig ⊢
  generalize c.config = o' at hconfig ⊢
  cases hconfig with
  | none => rfl
  | some hx => exact hx.env

/-- The trees of a base and of its result show the same outside of what is composed. -/
theorem untouched_of_shown (a : Appender) (layers : List Layer) {r c r' c' : Raw}
    (hr : ImageManifest.Shown r base.manifest) (hc : ImageConfig.Shown c base.config)
    (hr' : ImageManifest.Shown r' (a.imageOf base layers))
    (hc' : ImageConfig.Shown c' (a.configOf base layers)) : Untouched a.envs r c r' c' where
  manifest := fun k hk => ⟨base.manifest.extra.get? k, hr.extra k hk, hr'.extra k hk⟩
  layers := by
    intro i l hl
    have hbase := hr.layers i
    have himage := hr'.layers i
    rw [hl] at hbase
    generalize hd : base.manifest.layers[i]? = o at hbase
    cases hbase with
    | some hshown =>
      rw [layers_imageOf, List.getElem?_append_left (List.getElem?_eq_some_iff.1 hd).1, hd] at himage
      generalize (r'.items "layers")[i]? = o' at himage ⊢
      cases himage with
      | some hshown' => exact ⟨_, rfl, fun k hk => ⟨_, hshown k hk, hshown' k hk⟩⟩
  annotations := by
    intro k hname hdigest
    have himage := hr'.annotations k
    rw [annotations_imageOf a base layers hname hdigest] at himage
    exact himage.trans (hr.annotations k).symm
  config := by
    intro k hk
    have himage := hc'.extra k hk
    rw [extra_configOf] at himage
    exact ⟨_, hc.extra k hk, himage⟩
  inner := by
    intro x hx
    have hbase := hc.config
    have himage := hc'.config
    rw [hx] at hbase
    rw [config_configOf] at himage
    generalize base.config.config = o at hbase himage
    cases hbase with
    | @some _ y hshown =>
      obtain ⟨y', hy', hextra⟩ : ∃ y', (if a.envs.isEmpty then some y
          else some { (some y).getD {} with
            env := some (Environment.override base.config.env a.envs) }) = some y' ∧
          y'.extra = y.extra := by
        split
        · exact ⟨_, rfl, rfl⟩
        · exact ⟨_, rfl, rfl⟩
      rw [hy'] at himage
      generalize c'.object? "config" = o' at himage ⊢
      cases himage with
      | some hshown' =>
        refine ⟨_, rfl, fun k hk => ⟨_, hshown.extra k hk, ?_⟩⟩
        rw [← hextra]
        exact hshown'.extra k hk
  env := by
    intro henvs
    rw [env_of_shown hc, env_of_shown hc', config_configOf, henvs]
    rfl

/-- An append leaves everything as it is that it does not compose: the members of the manifest, of the
    layers and of the config that it does not know, the annotations but for those of the base, and
    the variables unless some are given. The texts of the base are those that the registry gave when
    the base was resolved; the new ones are those of the plan that was pushed. -/
theorem untouched_by_append {σ : Type} {registry : Registry σ} {a a' : Appender}
    {layers : List Layer} {w w' : Run σ} {result : AppendResult} {base : ResolvedBase}
    (h : a.append registry layers w = (.ok result, a', w')) (hbase : a'.state = some base)
    (hread : a.state = some base → ∃ s content, a.ReadsBase registry s base content)
    (hmanifest : ∀ v ∈ base.manifest.passed, v.Whole)
    (hconfig : ∀ v ∈ base.config.passed, v.Whole) :
    ∃ (s : σ) (plan : PushPlan) (content content' : Bytes) (r c r' c' : Raw),
      a.ReadsBase registry s base content ∧ (a.state = none → s = w.registry) ∧
      (∃ w1 w2, plan.push registry w1 = (.ok (), w2) ∧ w2.registry = w'.registry) ∧
      plan.manifest.digest = result.hash ∧ (result.configDigest, content') ∈ plan.blobs ∧
      Raw.ofBytes? base.raw.bytes = some r ∧ Raw.ofBytes? content = some c ∧
      Raw.ofBytes? plan.manifest.bytes = some r' ∧ Raw.ofBytes? content' = some c' ∧
      Untouched a.envs r c r' c' := by
  obtain ⟨b, hb, rfl, hpush, hfrom⟩ := pushed_of_append h
  obtain rfl := Option.some.inj (hbase.symm.trans hb)
  obtain ⟨s, content, hreads, hs⟩ : ∃ s content, a.ReadsBase registry s base content ∧
      (a.state = none → s = w.registry) := by
    rcases hfrom with hstate | ⟨-, content, hreads⟩
    · obtain ⟨s, content, hreads⟩ := hread hstate
      refine ⟨s, content, hreads, fun hnone => ?_⟩
      rw [hstate] at hnone
      cases hnone
    · exact ⟨w.registry, content, hreads, fun _ => rfl⟩
  obtain ⟨r, hr, hrshown⟩ := Option.bind_eq_some_iff.1 hreads.2.1
  obtain ⟨c, hc, hcshown⟩ := Option.bind_eq_some_iff.1 hreads.2.2
  have himage : ReadsBack ImageManifest.ofJson ImageManifest.toJson maxNesting
      (a.imageOf base layers) := (keeps_imageOf a layers (hreads.keeps hmanifest)).readsBack
  have hresult : ReadsBack ImageConfig.ofJson ImageConfig.toJson maxNesting
      (a.configOf base layers) := (keeps_configOf a layers (hreads.config_keeps hconfig)).readsBack
  refine ⟨s, a.plan base layers, content, (a.configOf base layers).bytes, r, c,
    (a.imageOf base layers).toJson.reading, (a.configOf base layers).toJson.reading, hreads, hs, hpush,
    ?_, ?_, hr, hc, ?_, ofBytes?_bytes (a.configOf base layers).toJson, ?_⟩
  · rw [hash_resultOf, manifest_plan]
  · rw [configDigest_resultOf, blobs_plan]
    exact List.mem_append_right _ (List.mem_singleton.2 rfl)
  · rw [manifest_plan, bytes_rawOf]
    exact ofBytes?_bytes (a.imageOf base layers).toJson
  · exact untouched_of_shown a layers (ImageManifest.shown_of_ofJson hrshown)
      (ImageConfig.shown_of_ofJson hcshown) (ImageManifest.shown_of_ofJson himage)
      (ImageConfig.shown_of_ofJson hresult)

end Appender

/-! ## An image with members of its own -/

namespace Labelled

open TwoChildren Appender

def manifest : ImageManifest :=
  { TwoChildren.image with
    layers := TwoChildren.image.layers.map fun l =>
      { l with extra := .ofList [("urls", .array [.string "u"])] }
    annotations := some (.ofList [("k", "v"), (Provenance.digestKey, "old")])
    extra := .ofList [("subject", .object [("n", .array [.number (.integer (-1)), .null])])] }

def config : ImageConfig :=
  { ImageConfig.empty with
    config := some { env := some ["A=1"], extra := .ofList [("Labels", .object [("l", .string "")])] }
    extra := .ofList [("created", .null)] }

def raw : RawManifest := ⟨MediaType.ociManifest, manifest.bytes⟩

/-- The image and its config stand in for the first child. -/
def stored : MemoryRegistry :=
  let m := TwoChildren.stored.setBlob first.base manifest.config.digest config.bytes
  { m with manifests := m.manifests.insert (first.base.context, .ofReference first.base) raw }

def base : ResolvedBase where
  reference := some first.base
  raw := raw
  manifest := manifest
  config := config
  kind := .ociManifest

theorem bytes_raw : raw.bytes = manifest.toJson.bytes := by
  unfold raw ImageManifest.bytes
  dsimp only

theorem decode_manifest : Decode.ofBytes? ImageManifest.ofJson raw.bytes = some manifest := by
  unfold raw ImageManifest.bytes
  rw [Decode.ofBytes?_bytes]
  decide +kernel

theorem decode_config : Decode.ofBytes? ImageConfig.ofJson config.bytes = some config := by
  unfold ImageConfig.bytes
  rw [Decode.ofBytes?_bytes]
  decide +kernel

theorem blob_config : stored.blob? first.base manifest.config.digest = some config.bytes := by
  decide +kernel

theorem serves_base : stored.Serves first.base base where
  reference := rfl
  stored := rfl
  kind := rfl
  isImage := rfl
  manifest := decode_manifest
  config := ⟨_, blob_config, decode_config⟩

/-- One layer goes onto the image, and no variable is set. -/
def appender : Appender := appended.appender first result

theorem append_base : ∃ r a w,
    appender.append registry appended.layers { registry := stored } = (.ok r, a, w) := by
  have hfree : ¬ (appender.plan base appended.layers).Blocked stored := by
    refine not_blocked appender appended.layers rfl rfl ?_
    intro r hr l hl
    cases hr
    rw [List.mem_singleton.1 hl]
    rfl
  obtain ⟨a, w, h⟩ := append_of_not_blocked (a := appender) rfl
    (w := { registry := stored }) serves_base hfree
  exact ⟨_, a, w, h⟩

/-- What is read is the image. -/
theorem reads_stored {b : ResolvedBase} {content : Bytes}
    (h : appender.ReadsBase registry stored b content) :
    b.raw = raw ∧ b.manifest = manifest ∧ content = config.bytes ∧ b.config = config := by
  obtain ⟨⟨s1, s2, hgot, hblob⟩, hmanifest, hconfig⟩ := h
  have hserved : getManifest first.base stored = (.ok raw, stored) :=
    getManifest_of_some serves_base.stored
  have hfound : getBlob first.base manifest.config.digest stored = (.ok config.bytes, stored) :=
    getBlob_of_some blob_config
  obtain ⟨hok, rfl⟩ := Prod.mk.inj (hserved.symm.trans hgot)
  have hraw : b.raw = raw := (Except.ok.inj hok).symm
  rw [hraw, decode_manifest] at hmanifest
  have hm : b.manifest = manifest := (Option.some.inj hmanifest).symm
  rw [hm] at hblob
  have hcontent : content = config.bytes :=
    (Except.ok.inj (Prod.mk.inj (hfound.symm.trans hblob)).1).symm
  rw [hcontent, decode_config] at hconfig
  exact ⟨hraw, hm, hcontent, (Option.some.inj hconfig).symm⟩

/-- The members of the image are still there. -/
theorem untouched_by_append_base : ∃ (r : AppendResult) (a : Appender) (w : Run MemoryRegistry)
    (plan : PushPlan) (content : Bytes) (manifest' config' : Raw),
    appender.append registry appended.layers { registry := stored } = (.ok r, a, w) ∧
    (∃ w1 w2, plan.push registry w1 = (.ok (), w2) ∧ w2.registry = w.registry) ∧
    plan.manifest.digest = r.hash ∧ (r.configDigest, content) ∈ plan.blobs ∧
    Raw.ofBytes? plan.manifest.bytes = some manifest' ∧ Raw.ofBytes? content = some config' ∧
    manifest'.value? "subject" =
      some (some (.object [("n", .array [.number (.integer (-1)), .null])])) ∧
    (∃ l, (manifest'.items "layers")[0]? = some l ∧
      l.value? "urls" = some (some (.array [.string "u"]))) ∧
    manifest'.annotation? "k" = some (some (.string "v")) ∧
    config'.value? "created" = some (some .null) ∧
    config'.env? = some (some (.array [.string "A=1"])) := by
  obtain ⟨r, a, w, happend⟩ := append_base
  have hnone : appender.state = none := rfl
  obtain ⟨b, hb, -, -, hfrom⟩ := pushed_of_append happend
  obtain ⟨content, hreads⟩ : ∃ content, appender.ReadsBase registry stored b content := by
    rcases hfrom with hsome | ⟨-, hreads⟩
    · cases hnone.symm.trans hsome
    · exact hreads
  obtain ⟨-, hm, -, hc⟩ := reads_stored hreads
  have hmanifest : ∀ v ∈ b.manifest.passed, ∀ n ∈ v.numbers, n.Whole := by
    rw [hm]
    decide +kernel
  have hconfig : ∀ v ∈ b.config.passed, ∀ n ∈ v.numbers, n.Whole := by
    rw [hc]
    decide +kernel
  obtain ⟨s, plan, content, content', t, c, t', c', hreads, hs, hpush, hhash, hblob, ht, hc, ht',
    hc', h⟩ := untouched_by_append happend hb (fun h => by cases hnone.symm.trans h) hmanifest hconfig
  obtain rfl : s = stored := hs hnone
  obtain ⟨hraw, -, hcontent, -⟩ := reads_stored hreads
  rw [hraw, bytes_raw, ofBytes?_bytes, Option.some.injEq] at ht
  subst ht
  rw [hcontent, ImageConfig.bytes, ofBytes?_bytes, Option.some.injEq] at hc
  subst hc
  obtain ⟨l', hl', hurls⟩ := h.layers 0 _ rfl
  refine ⟨r, a, w, plan, content', t', c', happend, hpush, hhash, hblob, ht', hc', ?_,
    ⟨l', hl', ?_⟩, ?_, ?_, ?_⟩
  · obtain ⟨v, hv, hv'⟩ := h.manifest "subject" (by decide)
    rw [hv', ← hv]
    decide +kernel
  · obtain ⟨v, hv, hv'⟩ := hurls "urls" (by decide)
    rw [hv', ← hv]
    decide +kernel
  · rw [h.annotations "k" (by decide) (by decide)]
    decide +kernel
  · obtain ⟨v, hv, hv'⟩ := h.config "created" (by decide)
    rw [hv', ← hv]
    decide +kernel
  · rw [h.env rfl]
    decide +kernel

end Labelled

end OciCompose
