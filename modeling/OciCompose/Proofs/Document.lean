import OciCompose.Appender
import OciCompose.Config
import OciCompose.Proofs.Json.Object

/-
  Documents are read back as they were written.
  Each type has its table of `fields`, which its JSON is made from (`toJson_eq`), and is read back if
  what it passes on is: `Keeps` says so for images, indexes and configs. `documents_stable` puts the
  types together: what is read and written again is the same, and so is its digest.
-/

namespace OciCompose

open Json

namespace Json

theorem readsBack_digest (room : Nat) (d : Digest) :
    ReadsBack Decode.digest (fun d => .string d.toText) room d := by
  show (Digest.parse d.toText).toOption = some d
  rw [Digest.parse_toText]
  rfl

theorem readsBack_annotations (room : Nat) (a : Annotations) :
    ReadsBack (Decode.map Decode.text) ofAnnotations (room + 1) a :=
  readsBack_map fun x _ => readsBack_text room x.2

end Json

namespace Platform

def fields (p : Platform) : List (String × Option Value) :=
  [("architecture", some (.string p.architecture)), ("os", some (.string p.os)),
    ("os.version", p.osVersion.map .string),
    ("os.features", if p.osFeatures.isEmpty then none
      else some (.array (p.osFeatures.map .string))),
    ("variant", p.variant.map .string)]

theorem readsBack (room : Nat) (p : Platform) : ReadsBack ofJson toJson (room + 2) p := by
  have hl : Layout ["architecture", "os", "os.version", "os.features", "variant"] p.fields [] :=
    ⟨rfl, by decide, nofun⟩
  have hjson : p.toJson = .object (written p.fields ++ []) := by
    simp [toJson, fields, written_cons, given_some, given_ite, written_nil]
  unfold ReadsBack ofJson
  rw [hjson]
  simp only [bind, hl.record, Option.bind_some, Option.bind_eq_some_iff]
  exact ⟨p.architecture, hl.present rfl (readsBack_text _ _), p.os,
    hl.required rfl (readsBack_text _ _), p.osVersion,
    hl.optional rfl nofun fun s _ => readsBack_text _ s, p.osFeatures,
    hl.unlessEmpty rfl (readsBack_list fun s _ => readsBack_text room s), p.variant,
    hl.optional rfl nofun fun s _ => readsBack_text _ s, rfl⟩

end Platform

namespace Descriptor

def fields (d : Descriptor) : List (String × Option Value) :=
  [("mediaType", some (.string d.mediaType)), ("digest", some (.string d.digest.toText)),
    ("size", some (.natural d.size.toNat)), ("platform", d.platform.map Platform.toJson),
    ("annotations", d.annotations.map ofAnnotations)]

theorem toJson_eq (d : Descriptor) : d.toJson = .object (written d.fields ++ d.extra.toList) := by
  simp [toJson, fields, written_cons, given_some, written_nil]

theorem readsBack {d : Descriptor} {room : Nat} (h : Passes known (room + 2) d.extra) :
    ReadsBack ofJson toJson (room + 3) d := by
  have hl : Layout known d.fields d.extra.toList := ⟨rfl, by decide, h.unknown⟩
  unfold ReadsBack ofJson
  rw [toJson_eq]
  simp only [bind, hl.members, Option.bind_some, Option.bind_eq_some_iff]
  exact ⟨d.mediaType, hl.required rfl (readsBack_text _ _), d.digest,
    hl.required rfl (readsBack_digest _ _), d.size, hl.required rfl (readsBack_word64 _ _),
    d.platform, hl.optional rfl nofun fun p _ => p.readsBack room, d.annotations,
    hl.optional rfl nofun fun a _ => readsBack_annotations _ a, d.extra, h.others hl, rfl⟩

/-- The values that are passed on. -/
def passed (d : Descriptor) : List Value := d.extra.toList.map Prod.snd

theorem passes_of_reads {d : Descriptor} {room : Nat} (h : Reads ofJson (room + 1) d)
    (hw : ∀ v ∈ d.passed, v.Whole) : Passes known room d.extra := by
  obtain ⟨r, hr⟩ := h
  simp only [ofJson, bind, Option.bind_eq_some_iff, Option.some.injEq] at hr
  obtain ⟨⟨room', ms⟩, hms, mediaType, -, digest, -, size, -, platform, -, annotations, -, extra,
    hextra, rfl⟩ := hr
  cases room_of_members hms
  exact Passes.of_others hextra fun m hm => hw m.2 (List.mem_map_of_mem hm)

end Descriptor

namespace ImageManifest

def fields (m : ImageManifest) : List (String × Option Value) :=
  [("schemaVersion", some (.natural m.schemaVersion.toNat)),
    ("mediaType", m.mediaType.map .string), ("config", some m.config.toJson),
    ("layers", some (.array (m.layers.map Descriptor.toJson))),
    ("annotations", m.annotations.map ofAnnotations)]

theorem toJson_eq (m : ImageManifest) :
    m.toJson = .object (written m.fields ++ m.extra.toList) := by
  simp [toJson, fields, written_cons, given_some, written_nil]

/-- What an image passes on can be read at the levels of nesting where it stands. -/
structure Keeps (room : Nat) (m : ImageManifest) : Prop where
  config : Passes Descriptor.known (room + 3) m.config.extra
  layers : ∀ d ∈ m.layers, Passes Descriptor.known (room + 2) d.extra
  extra : Passes known (room + 4) m.extra

theorem Keeps.readsBack {m : ImageManifest} {room : Nat} (h : Keeps room m) :
    ReadsBack ofJson toJson (room + 5) m := by
  have hl : Layout known m.fields m.extra.toList := ⟨rfl, by decide, h.extra.unknown⟩
  unfold ReadsBack ofJson
  rw [toJson_eq]
  simp only [bind, hl.members, Option.bind_some, Option.bind_eq_some_iff]
  exact ⟨m.schemaVersion, hl.required rfl (readsBack_word32 _ _), m.mediaType,
    hl.optional rfl nofun fun s _ => readsBack_text _ s, m.config,
    hl.required rfl (Descriptor.readsBack h.config), m.layers,
    hl.present rfl (readsBack_list fun d hd => Descriptor.readsBack (h.layers d hd)),
    m.annotations, hl.optional rfl nofun fun a _ => readsBack_annotations _ a, m.extra,
    h.extra.others hl, rfl⟩

/-- The values that are passed on, by the manifest and by its descriptors. -/
def passed (m : ImageManifest) : List Value :=
  m.config.passed ++ m.layers.flatMap Descriptor.passed ++ m.extra.toList.map Prod.snd

theorem keeps_of_reads {m : ImageManifest} {room : Nat} (h : Reads ofJson (room + 5) m)
    (hw : ∀ v ∈ m.passed, v.Whole) : Keeps room m := by
  simp only [passed, List.forall_mem_append] at hw
  obtain ⟨⟨hconfigs, hlayers⟩, hextras⟩ := hw
  obtain ⟨r, hr⟩ := h
  simp only [ofJson, bind, Option.bind_eq_some_iff, Option.some.injEq] at hr
  obtain ⟨⟨room', ms⟩, hms, schemaVersion, -, mediaType, -, config, hconfig, layers, hitems,
    annotations, -, extra, hextra, rfl⟩ := hr
  cases room_of_members hms
  exact {
    config := Descriptor.passes_of_reads (reads_required hconfig) hconfigs
    layers := fun d hd => Descriptor.passes_of_reads (reads_items hitems d hd) fun v hv =>
      hlayers v (List.mem_flatMap_of_mem hd hv)
    extra := Passes.of_others hextra fun x hx => hextras x.2 (List.mem_map_of_mem hx) }

end ImageManifest

namespace ImageIndex

def fields (i : ImageIndex) : List (String × Option Value) :=
  [("schemaVersion", some (.natural i.schemaVersion.toNat)),
    ("mediaType", i.mediaType.map .string),
    ("manifests", some (.array (i.manifests.map Descriptor.toJson))),
    ("annotations", i.annotations.map ofAnnotations)]

theorem toJson_eq (i : ImageIndex) : i.toJson = .object (written i.fields ++ i.extra.toList) := by
  simp [toJson, fields, written_cons, given_some, written_nil]

/-- What an index passes on can be read at the levels of nesting where it stands. -/
structure Keeps (room : Nat) (i : ImageIndex) : Prop where
  manifests : ∀ d ∈ i.manifests, Passes Descriptor.known (room + 2) d.extra
  extra : Passes known (room + 4) i.extra

theorem Keeps.readsBack {i : ImageIndex} {room : Nat} (h : Keeps room i) :
    ReadsBack ofJson toJson (room + 5) i := by
  have hl : Layout known i.fields i.extra.toList := ⟨rfl, by decide, h.extra.unknown⟩
  unfold ReadsBack ofJson
  rw [toJson_eq]
  simp only [bind, hl.members, Option.bind_some, Option.bind_eq_some_iff]
  exact ⟨i.schemaVersion, hl.required rfl (readsBack_word32 _ _), i.mediaType,
    hl.optional rfl nofun fun s _ => readsBack_text _ s, i.manifests,
    hl.present rfl (readsBack_list fun d hd => Descriptor.readsBack (h.manifests d hd)),
    i.annotations, hl.optional rfl nofun fun a _ => readsBack_annotations _ a, i.extra,
    h.extra.others hl, rfl⟩

/-- The values that are passed on, by the index and by its descriptors. -/
def passed (i : ImageIndex) : List Value :=
  i.manifests.flatMap Descriptor.passed ++ i.extra.toList.map Prod.snd

theorem keeps_of_reads {i : ImageIndex} {room : Nat} (h : Reads ofJson (room + 5) i)
    (hw : ∀ v ∈ i.passed, v.Whole) : Keeps room i := by
  simp only [passed, List.forall_mem_append] at hw
  obtain ⟨hmanifests, hextras⟩ := hw
  obtain ⟨r, hr⟩ := h
  simp only [ofJson, bind, Option.bind_eq_some_iff, Option.some.injEq] at hr
  obtain ⟨⟨room', ms⟩, hms, schemaVersion, -, mediaType, -, manifests, hitems, annotations, -, extra,
    hextra, rfl⟩ := hr
  cases room_of_members hms
  exact {
    manifests := fun d hd => Descriptor.passes_of_reads (reads_items hitems d hd) fun v hv =>
      hmanifests v (List.mem_flatMap_of_mem hd hv)
    extra := Passes.of_others hextra fun x hx => hextras x.2 (List.mem_map_of_mem hx) }

end ImageIndex

namespace RootFs

def fields (r : RootFs) : List (String × Option Value) :=
  [("type", some (.string r.kind)),
    ("diff_ids", some (.array (r.diffIds.map fun d => .string d.toText)))]

theorem readsBack (room : Nat) (r : RootFs) : ReadsBack ofJson toJson (room + 2) r := by
  have hl : Layout ["type", "diff_ids"] r.fields [] := ⟨rfl, by decide, nofun⟩
  have hjson : r.toJson = .object (written r.fields ++ []) := by
    simp [toJson, fields, written_cons, given_some, written_nil]
  unfold ReadsBack ofJson
  rw [hjson]
  simp only [bind, hl.record, Option.bind_some, Option.bind_eq_some_iff]
  exact ⟨r.kind, hl.required rfl (readsBack_text _ _), r.diffIds,
    hl.present rfl (readsBack_list fun d _ => readsBack_digest room d), rfl⟩

end RootFs

namespace ContainerConfig

def fields (c : ContainerConfig) : List (String × Option Value) :=
  [("Env", c.env.map fun l => .array (l.map .string))]

theorem toJson_eq (c : ContainerConfig) : c.toJson = .object (written c.fields ++ c.extra.toList) := by
  simp [toJson, fields, written_cons, written_nil]

theorem readsBack {c : ContainerConfig} {room : Nat} (h : Passes ["Env"] (room + 1) c.extra) :
    ReadsBack ofJson toJson (room + 2) c := by
  have hl : Layout ["Env"] c.fields c.extra.toList := ⟨rfl, by decide, h.unknown⟩
  unfold ReadsBack ofJson
  rw [toJson_eq]
  simp only [bind, hl.members, Option.bind_some, Option.bind_eq_some_iff]
  exact ⟨c.env, hl.optional rfl nofun fun l _ => readsBack_list fun s _ => readsBack_text room s,
    c.extra, h.others hl, rfl⟩

/-- The values that are passed on. -/
def passed (c : ContainerConfig) : List Value := c.extra.toList.map Prod.snd

theorem passes_of_reads {c : ContainerConfig} {room : Nat} (h : Reads ofJson (room + 1) c)
    (hw : ∀ v ∈ c.passed, v.Whole) : Passes ["Env"] room c.extra := by
  obtain ⟨r, hr⟩ := h
  simp only [ofJson, bind, Option.bind_eq_some_iff, Option.some.injEq] at hr
  obtain ⟨⟨room', ms⟩, hms, env, -, extra, hextra, rfl⟩ := hr
  cases room_of_members hms
  exact Passes.of_others hextra fun m hm => hw m.2 (List.mem_map_of_mem hm)

end ContainerConfig

namespace ImageConfig

def fields (c : ImageConfig) : List (String × Option Value) :=
  [("architecture", some (.string c.architecture)), ("os", some (.string c.os)),
    ("variant", c.variant.map .string), ("config", c.config.map ContainerConfig.toJson),
    ("rootfs", some c.rootfs.toJson),
    ("history", if c.history.isEmpty then none else some (.array c.history))]

theorem toJson_eq (c : ImageConfig) : c.toJson = .object (written c.fields ++ c.extra.toList) := by
  simp [toJson, fields, written_cons, given_some, given_ite, written_nil]

/-- What a config passes on can be read at the levels of nesting where it stands. -/
structure Keeps (room : Nat) (c : ImageConfig) : Prop where
  config : ∀ x, c.config = some x → Passes ["Env"] (room + 1) x.extra
  history : ∀ v ∈ c.history, ReadsBack valueOf id (room + 1) v
  extra : Passes known (room + 2) c.extra

theorem Keeps.readsBack {c : ImageConfig} {room : Nat} (h : Keeps room c) :
    ReadsBack ofJson toJson (room + 3) c := by
  have hl : Layout known c.fields c.extra.toList := ⟨rfl, by decide, h.extra.unknown⟩
  have hhistory := readsBack_list h.history
  simp only [ReadsBack, List.map_id] at hhistory
  unfold ReadsBack ofJson
  rw [toJson_eq]
  simp only [bind, hl.members, Option.bind_some, Option.bind_eq_some_iff]
  exact ⟨c.architecture, hl.present rfl (readsBack_text _ _), c.os,
    hl.present rfl (readsBack_text _ _), c.variant,
    hl.optional rfl nofun fun s _ => readsBack_text _ s, c.config,
    hl.optional rfl nofun fun x hx => ContainerConfig.readsBack (h.config x hx), c.rootfs,
    hl.present rfl (c.rootfs.readsBack _), c.history, hl.unlessEmpty rfl hhistory, c.extra,
    h.extra.others hl, rfl⟩

/-- The values that are passed on, by the config and by its inner one. -/
def passed (c : ImageConfig) : List Value :=
  c.config.toList.flatMap ContainerConfig.passed ++ c.history ++ c.extra.toList.map Prod.snd

theorem keeps_of_reads {c : ImageConfig} {room : Nat} (h : Reads ofJson (room + 3) c)
    (hw : ∀ v ∈ c.passed, v.Whole) : Keeps room c := by
  simp only [passed, List.forall_mem_append] at hw
  obtain ⟨⟨hconfigs, hentries⟩, hextras⟩ := hw
  obtain ⟨r, hr⟩ := h
  simp only [ofJson, bind, Option.bind_eq_some_iff, Option.some.injEq] at hr
  obtain ⟨⟨room', ms⟩, hms, architecture, -, os, -, variant, -, config, hconfig, rootfs, -, history,
    hitems, extra, hextra, rfl⟩ := hr
  cases room_of_members hms
  exact {
    config := fun x hx => ContainerConfig.passes_of_reads (reads_optional hconfig hx) fun v hv =>
      hconfigs v (List.mem_flatMap_of_mem (Option.mem_toList.2 hx) hv)
    history := fun v hv => by
      obtain ⟨r, hr⟩ := reads_items hitems v hv
      exact readsBack_valueOf r _ v hr (hentries v hv)
    extra := Passes.of_others hextra fun x hx => hextras x.2 (List.mem_map_of_mem hx) }

end ImageConfig

namespace AddedLayer

def fields (l : AddedLayer) : List (String × Option Value) :=
  [("mediaType", some (.string l.mediaType)), ("size", some (.natural l.size.toNat)),
    ("digest", some (.string l.digest.toText)), ("platform", l.platform.map Platform.toJson)]

theorem readsBack (room : Nat) (l : AddedLayer) : ReadsBack ofJson toJson (room + 3) l := by
  have hl : Layout ["mediaType", "size", "digest", "platform"] l.fields [] :=
    ⟨rfl, by decide, nofun⟩
  have hjson : l.toJson = .object (written l.fields ++ []) := by
    simp [toJson, fields, written_cons, given_some, written_nil]
  unfold ReadsBack ofJson
  rw [hjson]
  simp only [bind, hl.record, Option.bind_some, Option.bind_eq_some_iff]
  exact ⟨l.mediaType, hl.required rfl (readsBack_text _ _), l.size,
    hl.required rfl (readsBack_word64 _ _), l.digest, hl.required rfl (readsBack_digest _ _),
    l.platform, hl.optional rfl nofun fun p _ => p.readsBack room, rfl⟩

end AddedLayer

namespace ModePolicy

theorem readsBack (room : Nat) (p : ModePolicy) :
    ReadsBack ofJson (fun p => .string p.name) room p := by
  cases room <;> cases p <;> rfl

end ModePolicy

namespace LayerAttributes

def fields (a : LayerAttributes) : List (String × Option Value) :=
  [("uid", a.uid.map (.natural ·.toNat)), ("gid", a.gid.map (.natural ·.toNat)),
    ("fileMode", a.fileMode.map (.natural ·.toNat)),
    ("modePolicy", some (.string a.modePolicy.name))]

theorem readsBack (room : Nat) (a : LayerAttributes) : ReadsBack ofJson toJson (room + 1) a := by
  have hl : Layout ["uid", "gid", "fileMode", "modePolicy"] a.fields [] :=
    ⟨rfl, by decide, nofun⟩
  have hjson : a.toJson = .object (written a.fields ++ []) := by
    simp [toJson, fields, written_cons, given_some, written_nil]
  unfold ReadsBack ofJson
  rw [hjson]
  simp only [bind, hl.record, Option.bind_some, Option.bind_eq_some_iff]
  exact ⟨a.uid, hl.optional rfl nofun fun n _ => readsBack_word32 _ n, a.gid,
    hl.optional rfl nofun fun n _ => readsBack_word32 _ n, a.fileMode,
    hl.optional rfl nofun fun n _ => readsBack_word32 _ n, a.modePolicy,
    hl.present rfl (a.modePolicy.readsBack _), rfl⟩

end LayerAttributes

namespace LocalDirConfig

def fields (d : LocalDirConfig) : List (String × Option Value) :=
  [("path", some (.string d.path)), ("containerPath", d.containerPath.map .string),
    ("ignore", some (.array (d.ignore.map .string))),
    ("maxFiles", d.maxFiles.map (.natural ·.toNat)), ("maxSize", d.maxSize.map .string)]

theorem readsBack (room : Nat) (d : LocalDirConfig) : ReadsBack ofJson toJson (room + 2) d := by
  have hl : Layout ["path", "containerPath", "ignore", "maxFiles", "maxSize"] d.fields [] :=
    ⟨rfl, by decide, nofun⟩
  have hjson : d.toJson = .object (written d.fields ++ []) := by
    simp [toJson, fields, written_cons, given_some, written_nil]
  unfold ReadsBack ofJson
  rw [hjson]
  simp only [bind, hl.record, Option.bind_some, Option.bind_eq_some_iff]
  exact ⟨d.path, hl.required rfl (readsBack_text _ _), d.containerPath,
    hl.optional rfl nofun fun s _ => readsBack_text _ s, d.ignore,
    hl.present rfl (readsBack_list fun s _ => readsBack_text room s), d.maxFiles,
    hl.optional rfl nofun fun n _ => readsBack_word64 _ n, d.maxSize,
    hl.optional rfl nofun fun s _ => readsBack_text _ s, rfl⟩

end LocalDirConfig

namespace LocalFileConfig

def fields (f : LocalFileConfig) : List (String × Option Value) :=
  [("path", some (.string f.path)), ("containerPath", some (.string f.containerPath))]

theorem readsBack (room : Nat) (f : LocalFileConfig) : ReadsBack ofJson toJson (room + 1) f := by
  have hl : Layout ["path", "containerPath"] f.fields [] := ⟨rfl, by decide, nofun⟩
  have hjson : f.toJson = .object (written f.fields ++ []) := by
    simp [toJson, fields, written_cons, given_some, written_nil]
  unfold ReadsBack ofJson
  rw [hjson]
  simp only [bind, hl.record, Option.bind_some, Option.bind_eq_some_iff]
  exact ⟨f.path, hl.required rfl (readsBack_text _ _), f.containerPath,
    hl.required rfl (readsBack_text _ _), rfl⟩

end LocalFileConfig

namespace LayerConfig

def fields (l : LayerConfig) : List (String × Option Value) :=
  [("layerAttributes", some l.attributes.toJson),
    ("localDir", l.localDir.map LocalDirConfig.toJson),
    ("localFile", l.localFile.map LocalFileConfig.toJson)]

theorem readsBack (room : Nat) (l : LayerConfig) : ReadsBack ofJson toJson (room + 3) l := by
  have hl : Layout ["layerAttributes", "localDir", "localFile"] l.fields [] :=
    ⟨rfl, by decide, nofun⟩
  have hjson : l.toJson = .object (written l.fields ++ []) := by
    simp [toJson, fields, written_cons, given_some, written_nil]
  unfold ReadsBack ofJson
  rw [hjson]
  simp only [bind, hl.record, Option.bind_some, Option.bind_eq_some_iff]
  exact ⟨l.attributes, hl.present rfl (l.attributes.readsBack _), l.localDir,
    hl.optional rfl nofun fun d _ => d.readsBack room, l.localFile,
    hl.optional rfl nofun fun f _ => f.readsBack _, rfl⟩

end LayerConfig

namespace EnvVar

def fields (v : EnvVar) : List (String × Option Value) :=
  [("name", some (.string v.name)), ("value", some (.string v.value))]

theorem readsBack (room : Nat) (v : EnvVar) : ReadsBack ofJson toJson (room + 1) v := by
  have hl : Layout ["name", "value"] v.fields [] := ⟨rfl, by decide, nofun⟩
  have hjson : v.toJson = .object (written v.fields ++ []) := by
    simp [toJson, fields, written_cons, given_some, written_nil]
  unfold ReadsBack ofJson
  rw [hjson]
  simp only [bind, hl.record, Option.bind_some, Option.bind_eq_some_iff]
  exact ⟨v.name, hl.required rfl (readsBack_text _ _), v.value,
    hl.present rfl (readsBack_text _ _), rfl⟩

end EnvVar

namespace BuildConfig

def fields (c : BuildConfig) : List (String × Option Value) :=
  [("base", some (.string c.base)), ("tag", some (.string c.tag)),
    ("platforms", some (.array (c.platforms.map .string))),
    ("layers", some (.array (c.layers.map LayerConfig.toJson))),
    ("env", some (.array (c.env.map EnvVar.toJson)))]

theorem readsBack (room : Nat) (c : BuildConfig) : ReadsBack ofJson toJson (room + 5) c := by
  have hl : Layout ["base", "tag", "platforms", "layers", "env"] c.fields [] :=
    ⟨rfl, by decide, nofun⟩
  have hjson : c.toJson = .object (written c.fields ++ []) := by
    simp [toJson, fields, written_cons, given_some, written_nil]
  unfold ReadsBack ofJson
  rw [hjson]
  simp only [bind, hl.record, Option.bind_some, Option.bind_eq_some_iff]
  exact ⟨c.base, hl.present rfl (readsBack_text _ _), c.tag, hl.required rfl (readsBack_text _ _),
    c.platforms, hl.present rfl (readsBack_list fun s _ => readsBack_text _ s), c.layers,
    hl.present rfl (readsBack_list fun l _ => l.readsBack room), c.env,
    hl.present rfl (readsBack_list fun v _ => v.readsBack _), rfl⟩

end BuildConfig

/-! ## Stability -/

namespace Json

variable {α : Type}

/-- A decoder has read a document, from a text or from bytes. -/
def IsRead (d : Decoder α) (a : α) : Prop :=
  (∃ s, Decode.ofText? d s = some a) ∨ ∃ bs, Decode.ofBytes? d bs = some a

theorem IsRead.reads {d : Decoder α} {a : α} (h : IsRead d a) : Reads d maxNesting a := by
  obtain ⟨s, hs⟩ | ⟨bs, hbs⟩ := h
  · obtain ⟨r, -, hr⟩ := Option.bind_eq_some_iff.1 hs
    exact ⟨r, hr⟩
  · obtain ⟨r, -, hr⟩ := Option.bind_eq_some_iff.1 hbs
    exact ⟨r, hr⟩

/-- A document that was read, and passes on whole numbers only, is read again from what is written for
    it, and written again as the same. -/
def Stable (d : Decoder α) (e : α → Value) (passed : α → List Value) : Prop :=
  ∀ a, IsRead d a → (∀ v ∈ passed a, v.Whole) →
    Decode.ofText? d (e a).compact = some a ∧ Decode.ofBytes? d (e a).bytes = some a ∧
      ∀ b, Decode.ofText? d (e a).compact = some b ∨ Decode.ofBytes? d (e a).bytes = some b →
        (e b).compact = (e a).compact ∧ (e b).bytes = (e a).bytes ∧
          Digest.ofBytes (e b).bytes = Digest.ofBytes (e a).bytes

theorem stable_of_readsBack {d : Decoder α} {e : α → Value} {passed : α → List Value}
    (h : ∀ a, Reads d maxNesting a → (∀ v ∈ passed a, v.Whole) → ReadsBack d e maxNesting a) :
    Stable d e passed := by
  intro a hread hw
  have hback := h a hread.reads hw
  have htext : Decode.ofText? d (e a).compact = some a :=
    (Decode.ofText?_compact d (e a)).trans hback
  have hbytes : Decode.ofBytes? d (e a).bytes = some a :=
    (Decode.ofBytes?_bytes d (e a)).trans hback
  refine ⟨htext, hbytes, fun b hb => ?_⟩
  have heq : b = a := by
    rcases hb with hb | hb
    · exact Option.some.inj (hb.symm.trans htext)
    · exact Option.some.inj (hb.symm.trans hbytes)
  rw [heq]
  exact ⟨rfl, rfl, rfl⟩

end Json

/-- All documents that are read are stable. -/
theorem documents_stable :
    Stable Platform.ofJson Platform.toJson (fun _ => []) ∧
    Stable Descriptor.ofJson Descriptor.toJson Descriptor.passed ∧
    Stable ImageManifest.ofJson ImageManifest.toJson ImageManifest.passed ∧
    Stable ImageIndex.ofJson ImageIndex.toJson ImageIndex.passed ∧
    Stable ImageConfig.ofJson ImageConfig.toJson ImageConfig.passed ∧
    Stable AddedLayer.ofJson AddedLayer.toJson (fun _ => []) ∧
    Stable LayerAttributes.ofJson LayerAttributes.toJson (fun _ => []) ∧
    Stable LayerConfig.ofJson LayerConfig.toJson (fun _ => []) ∧
    Stable BuildConfig.ofJson BuildConfig.toJson (fun _ => []) :=
  ⟨stable_of_readsBack fun p _ _ => p.readsBack 125,
    stable_of_readsBack fun _ h hw => Descriptor.readsBack (Descriptor.passes_of_reads h hw),
    stable_of_readsBack fun _ h hw => (ImageManifest.keeps_of_reads h hw).readsBack,
    stable_of_readsBack fun _ h hw => (ImageIndex.keeps_of_reads h hw).readsBack,
    stable_of_readsBack fun _ h hw => (ImageConfig.keeps_of_reads h hw).readsBack,
    stable_of_readsBack fun l _ _ => l.readsBack 124,
    stable_of_readsBack fun a _ _ => a.readsBack 126,
    stable_of_readsBack fun l _ _ => l.readsBack 124,
    stable_of_readsBack fun c _ _ => c.readsBack 122⟩

/-- A descriptor whose digest is in capitals, and whose `urls` come twice. -/
def shouting : String :=
  "\x7b\"urls\":[1.5],\"size\":7,\"digest\":\"md5:AB\",\"urls\":[-0,18446744073709551615,null]," ++
    "\"mediaType\":\"a\\u002fb\"\x7d"

theorem shouting_stable : ∃ d, Decode.ofText? Descriptor.ofJson shouting = some d ∧
    Decode.ofText? Descriptor.ofJson d.toJson.compact = some d ∧ d.toJson.compact ≠ shouting := by
  have hread : (Decode.ofText? Descriptor.ofJson shouting).isSome := by decide +kernel
  obtain ⟨d, hd⟩ := Option.isSome_iff_exists.1 hread
  have hwhole : ∀ v ∈ d.passed, ∀ n ∈ v.numbers, n.Whole := by
    have h : ∀ d ∈ Decode.ofText? Descriptor.ofJson shouting, ∀ v ∈ d.passed,
      ∀ n ∈ v.numbers, n.Whole := by decide +kernel
    exact h d hd
  refine ⟨d, hd, (documents_stable.2.1 d (.inl ⟨_, hd⟩) hwhole).1, ?_⟩
  have h : ∀ d ∈ Decode.ofText? Descriptor.ofJson shouting, d.toJson.compact ≠ shouting := by
    decide +kernel
  exact h d hd

end OciCompose
