import OciCompose.Proofs.Appending
import OciCompose.Proofs.Variables

/-
  Whether the history of an image describes its layers.
  An append adds one entry for each layer (`Extends.described_eq`), so what goes on from an image whose
  history describes its layers is such an image, too. A history is optional, though: the entries of the
  first layers are missing if the base has layers and no history (`Extends.aligned_iff`), also in what
  an append uploads (`aligned_of_append`).
-/

namespace OciCompose

open Json MemoryRegistry

/-- An entry of a history describes a layer, unless it says that it has none. -/
def DescribesLayer (entry : Value) : Prop := entry.member? "empty_layer" ≠ some (.bool true)

instance : DecidablePred DescribesLayer := fun _ => inferInstanceAs (Decidable (_ ≠ _))

/-- How many layers a history describes. -/
def ImageConfig.described (c : ImageConfig) : Nat := c.history.countP fun e => DescribesLayer e

/-- An image has a diff id for each layer, and a history that describes as many, or none at all. -/
structure Aligned (image : ImageManifest) (config : ImageConfig) : Prop where
  diffIds : config.rootfs.diffIds.length = image.layers.length
  history : config.history = [] ∨ config.described = image.layers.length

namespace Appender

/-! ## Images that go on from each other -/

section Extends

variable {base : ResolvedBase} {added : List Layer} {image : ImageManifest} {config : ImageConfig}

theorem Extends.length_layers (h : Extends base added image config) :
    image.layers.length = base.manifest.layers.length + added.length := by
  rw [h.layers, List.length_append, List.length_map]

theorem Extends.length_diffIds (h : Extends base added image config) :
    config.rootfs.diffIds.length = base.config.rootfs.diffIds.length + added.length := by
  rw [h.diffIds, List.length_append, List.length_map]

/-- The entry of an appended layer does not say that there is no layer. -/
theorem describesLayer_historyEntry : DescribesLayer historyEntry := by decide

theorem Extends.described_eq (h : Extends base added image config) :
    config.described = base.config.described + added.length := by
  have hadded : (added.map fun _ => historyEntry).countP (fun e => DescribesLayer e) =
      added.length := by
    rw [List.countP_eq_length.2, List.length_map]
    intro e he
    obtain ⟨l, -, rfl⟩ := List.mem_map.1 he
    exact decide_eq_true describesLayer_historyEntry
  rw [ImageConfig.described, h.history, List.countP_append, hadded]
  rfl

theorem Extends.history_eq_nil_iff (h : Extends base added image config) :
    config.history = [] ↔ base.config.history = [] ∧ added = [] := by
  rw [h.history, List.append_eq_nil_iff, List.map_eq_nil_iff]

/-- What goes on from an aligned image is aligned, unless layers are added to some that no history
    describes. -/
theorem Extends.aligned_iff (h : Extends base added image config)
    (hbase : Aligned base.manifest base.config) :
    Aligned image config ↔
      (base.config.history = [] → base.manifest.layers = [] ∨ added = []) := by
  have hdiffIds : config.rootfs.diffIds.length = image.layers.length := by
    rw [h.length_diffIds, h.length_layers, hbase.diffIds]
  have hmatch : config.described = image.layers.length ↔
      base.config.described = base.manifest.layers.length := by
    rw [h.described_eq, h.length_layers]
    omega
  constructor
  · rintro ⟨-, hhistory⟩ hnone
    rw [h.history_eq_nil_iff, hmatch] at hhistory
    rcases hhistory with ⟨-, hadded⟩ | hlayers
    · exact .inr hadded
    · rw [ImageConfig.described, hnone, List.countP_nil] at hlayers
      exact .inl (List.length_eq_zero_iff.1 hlayers.symm)
  · intro hcondition
    refine ⟨hdiffIds, ?_⟩
    rw [h.history_eq_nil_iff, hmatch]
    rcases hbase.history with hnone | hdescribed
    · rcases hcondition hnone with hlayers | hadded
      · rw [ImageConfig.described, hnone, hlayers]
        exact .inr rfl
      · exact .inl ⟨hnone, hadded⟩
    · exact .inr hdescribed

end Extends

/-! ## What is pushed -/

section Append

variable {σ : Type} {r : Registry σ} {a a' : Appender} {layers : List Layer} {w w' : Run σ}
  {result : AppendResult}

/-- What an append transfers, in order. -/
def transfers (a : Appender) (r : Registry σ) (layers : List Layer) (w : Run σ) : List Transfer :=
  (a.append r.noting layers w.noting).2.2.registry.2

/-- An append that succeeds does so with a record, too. -/
theorem append_noting (h : a.append r layers w = (.ok result, a', w')) :
    ∃ v, a.append r.noting layers w.noting = (.ok result, a', v) ∧
      v.registry.2 = a.transfers r layers w := by
  have hproject : a.append r layers w = _ := a.append_project r.noting_projects layers w.noting
  rw [h] at hproject
  obtain ⟨hresult, hrest⟩ := Prod.ext_iff.1 hproject
  obtain ⟨ha', -⟩ := Prod.ext_iff.1 hrest
  exact ⟨_, Prod.ext hresult.symm (Prod.ext ha'.symm rfl), rfl⟩

/-- An append that succeeds uploads an image that goes on from its base, and the config of that. -/
theorem uploaded_of_append (h : a.append r layers w = (.ok result, a', w')) :
    ∃ base image config,
      (a.state = some base ∨ a.state = none ∧ ∃ content, a.ReadsBase r w.registry base content) ∧
      Extends base layers image config ∧ result.hash = Digest.ofBytes image.bytes ∧
      UploadedWith (a.transfers r layers w) ⟨base.mediaType, image.bytes⟩ config := by
  obtain ⟨v, hv, hlog⟩ := append_noting h
  obtain ⟨base, hstate, rfl, -, hbase⟩ := pushed_of_append h
  obtain ⟨base', hstate', -, ⟨w1, w2, hpush, hw2⟩, -⟩ := pushed_of_append hv
  cases hstate.symm.trans hstate'
  obtain ⟨-, hblob, hmanifest⟩ :=
    (push_noting (a.plan base layers) (a.blobs_plan base layers) w1).ok hpush
  rw [hw2, hlog] at hblob hmanifest
  rw [a.manifest_plan, rawOf] at hmanifest
  have hextends := a.extends_imageOf base layers
  refine ⟨base, a.imageOf base layers, a.configOf base layers, hbase, hextends, ?_, ?_⟩
  · rw [hash_resultOf, RawManifest.digest, a.bytes_rawOf base layers]
  · refine ⟨⟨a.imageOf base layers, ?_, ?_⟩, _, hblob, hmanifest⟩
    · dsimp only
    · rw [hextends.config]

/-- Whatever the registry, an append that succeeds uploads an image with one diff id and one entry of the
    history more than its base for each appended layer. If the base is aligned there are as many diff
    ids as layers again, but the image is aligned just if the base has a history, or no layers, or
    nothing is appended: the history of the others begins with the appended layers. -/
theorem aligned_of_append (h : a.append r layers w = (.ok result, a', w')) :
    ∃ base image config,
      (a.state = some base ∨ a.state = none ∧ ∃ content, a.ReadsBase r w.registry base content) ∧
      Extends base layers image config ∧ result.hash = Digest.ofBytes image.bytes ∧
      UploadedWith (a.transfers r layers w) ⟨base.mediaType, image.bytes⟩ config ∧
      config.described = base.config.described + layers.length ∧
      (Aligned base.manifest base.config →
        config.rootfs.diffIds.length = image.layers.length ∧
        (Aligned image config ↔
          (base.config.history = [] → base.manifest.layers = [] ∨ layers = []))) := by
  obtain ⟨base, image, config, hbase, hextends, hhash, huploaded⟩ := uploaded_of_append h
  refine ⟨base, image, config, hbase, hextends, hhash, huploaded, hextends.described_eq,
    fun haligned => ⟨?_, hextends.aligned_iff haligned⟩⟩
  rw [hextends.length_diffIds, hextends.length_layers, haligned.diffIds]

end Append

end Appender

/-! ## A base without a history -/

namespace TwoChildren

open Appender

/-- A config with a diff id for the one layer of the image, and without a history. -/
def unrecorded : ImageConfig :=
  { ImageConfig.empty with rootfs := { kind := "layers", diffIds := [digit '6' rfl] } }

/-- The first child with that config. -/
def storedUnrecorded : MemoryRegistry :=
  stored.setBlob first.base image.config.digest unrecorded.bytes

theorem aligned_unrecorded : Aligned image unrecorded := ⟨rfl, .inl rfl⟩

theorem decode_unrecorded :
    Decode.ofBytes? ImageConfig.ofJson unrecorded.bytes = some unrecorded := by
  unfold ImageConfig.bytes
  rw [Decode.ofBytes?_bytes]
  decide +kernel

theorem serves_unrecorded :
    storedUnrecorded.Serves first.base { resolved with config := unrecorded } where
  reference := rfl
  stored := rfl
  kind := rfl
  isImage := rfl
  manifest := decode_image
  config := by
    refine ⟨unrecorded.bytes, ?_, decode_unrecorded⟩
    unfold storedUnrecorded blob? setBlob
    rw [Assoc.get?_insert]
    exact if_pos rfl

theorem append_unrecorded : ∃ result a w, (onto first.base).append registry appended.layers
    { registry := storedUnrecorded } = (.ok result, a, w) := by
  have hfree : ¬ ((onto first.base).plan { resolved with config := unrecorded }
      appended.layers).Blocked storedUnrecorded := by
    refine not_blocked _ appended.layers rfl rfl fun r hr l hl => ?_
    cases hr
    rw [List.mem_singleton.1 hl]
    rfl
  obtain ⟨a, w, h⟩ := append_of_not_blocked (state_onto first.base)
    (w := { registry := storedUnrecorded }) serves_unrecorded hfree
  exact ⟨_, a, w, h⟩

/-- A layer is appended to another one that no history describes. There are two diff ids then, and a
    history of one entry. -/
theorem aligned_of_append_unrecorded : ∃ result a w pushed config,
    (onto first.base).append registry appended.layers { registry := storedUnrecorded } =
      (.ok result, a, w) ∧
    Aligned image unrecorded ∧ result.hash = Digest.ofBytes pushed.bytes ∧
    UploadedWith ((onto first.base).transfers registry appended.layers { registry := storedUnrecorded })
      ⟨MediaType.ociManifest, pushed.bytes⟩ config ∧
    pushed.layers.length = 2 ∧ config.rootfs.diffIds.length = 2 ∧ config.history = [historyEntry] ∧
    ¬ Aligned pushed config := by
  obtain ⟨result, a, w, happend⟩ := append_unrecorded
  obtain ⟨base, pushed, config, hbase, hextends, hhash, huploaded, -, haligned⟩ :=
    aligned_of_append happend
  obtain ⟨-, content, hreads⟩ := hbase.resolve_left nofun
  obtain ⟨served, hserved⟩ := Resolves.reads (a := onto first.base) serves_unrecorded
  obtain ⟨hraw, hmanifest, hconfig⟩ := hreads.unique hserved
  rw [hmanifest, hconfig] at haligned
  obtain ⟨hdiffIds, hiff⟩ := haligned aligned_unrecorded
  have hlayers : pushed.layers.length = 2 := by rw [hextends.length_layers, hmanifest]; rfl
  have htype : base.mediaType = MediaType.ociManifest := congrArg RawManifest.mediaType hraw
  refine ⟨result, a, w, pushed, config, happend, aligned_unrecorded, hhash, htype ▸ huploaded,
    hlayers, hdiffIds.trans hlayers, ?_, ?_⟩
  · rw [hextends.history, hconfig]
    rfl
  · rw [hiff]
    exact fun h => (h rfl).elim nofun nofun

end TwoChildren

end OciCompose
