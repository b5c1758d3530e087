import OciCompose.Proofs.Layer.Archive
import OciCompose.Proofs.Layer.Intake

/-
  What a layer shows of its sources.
  `effective` leaves of staged content what an archive shows of it. `writeTar_ofList`: insertions of the
  same effective content give one archive, in whatever order. `Alike` says that two stagings show the same,
  and `addAll_alike` that taking in files which show the same keeps it so.
-/

namespace OciCompose

/-! ## What an archive shows -/

namespace LayerAttributes

/-- Entries get the same owner. -/
structure SameOwner (a b : LayerAttributes) : Prop where
  uid : a.uid.getD 0 = b.uid.getD 0
  gid : a.gid.getD 0 = b.gid.getD 0

/-- The attributes that keep an owner, and modes that are effective already. -/
def owner (a : LayerAttributes) : LayerAttributes where
  uid := some (a.uid.getD 0)
  gid := some (a.gid.getD 0)
  modePolicy := .preserve

theorem SameOwner.owner_eq {a b : LayerAttributes} (h : SameOwner a b) : a.owner = b.owner := by
  unfold owner
  rw [h.uid, h.gid]

end LayerAttributes

/-- An entry with its effective mode as that of its source. -/
def StagedEntry.effective (a : LayerAttributes) : StagedEntry → StagedEntry
  | .file content sourceMode => .file content (some (entryMode sourceMode a))
  | .symlink target => .symlink target

/-- An effective mode stays as it is. -/
theorem entryMode_owner (m : Option UInt32) (a : LayerAttributes) :
    entryMode (some (entryMode m a)) a.owner = entryMode m a := by
  have hmask := entryMode_le m a
  show entryMode m a &&& 0o777 = entryMode m a
  rw [← UInt32.toNat_inj, UInt32.toNat_and]
  exact Nat.and_two_pow_sub_one_of_lt_two_pow (n := 9) (Nat.lt_of_le_of_lt hmask (by decide))

namespace Staging

open LayerAttributes

/-- The entries as an archive shows them. -/
def effective (s : Staging) (a : LayerAttributes) : List (String × StagedEntry) :=
  s.entries.toList.map fun x => (x.1, x.2.effective a)

theorem member_effective (a : LayerAttributes) (x : String × StagedEntry) :
    member a x = member a.owner (x.1, x.2.effective a) := by
  obtain ⟨k, e⟩ := x
  cases e with
  | file content m =>
    unfold member
    dsimp only [StagedEntry.effective]
    rw [entryMode_owner]
    rfl
  | symlink target => rfl

/-- The archive depends on the effective entries and on the owner only. -/
theorem writeTar_eq {s t : Staging} {a b : LayerAttributes} (howner : SameOwner a b)
    (h : s.effective a = t.effective b) : s.writeTar a = t.writeTar b := by
  have hmembers : ∀ (s : Staging) (a : LayerAttributes),
      s.entries.toList.map (member a) = (s.effective a).map (member a.owner) := by
    intro s a
    rw [effective, List.map_map]
    exact List.map_congr_left fun x _ => member_effective a x
  unfold writeTar
  rw [hmembers, hmembers, h, howner.owner_eq]

theorem ascending_effective (s : Staging) (a : LayerAttributes) : Ascending (s.effective a) :=
  List.pairwise_map.2 s.entries.ascending

/-- An insertion as an archive shows it. -/
def shown (a : LayerAttributes) (x : String × StagedEntry) : String × StagedEntry :=
  (key x.1, x.2.effective a)

theorem mem_effective_ofList {l : List (String × StagedEntry)} (h : (l.map fun x => key x.1).Nodup)
    (a : LayerAttributes) (y : String × StagedEntry) :
    y ∈ (ofList l).effective a ↔ y ∈ l.map (shown a) := by
  have hmem : ∀ x : String × StagedEntry, x ∈ (ofList l).entries.toList ↔ x ∈ l.map keyed :=
    fun x => SortedMap.mem_toList.trans (get?_ofList h)
  have hshown : l.map (shown a) = (l.map keyed).map fun x => (x.1, x.2.effective a) := by
    rw [List.map_map]
    rfl
  rw [hshown, effective, List.mem_map, List.mem_map]
  simp only [hmem]

/-- Insertions at distinct keys that show the same, in whatever order, give one archive, or fail alike. -/
theorem writeTar_ofList {l l' : List (String × StagedEntry)} {a b : LayerAttributes}
    (howner : SameOwner a b) (hkeys : (l.map fun x => key x.1).Nodup)
    (hperm : (l.map (shown a)).Perm (l'.map (shown b))) :
    (ofList l).writeTar a = (ofList l').writeTar b := by
  have hkeysOf : ∀ (c : LayerAttributes) (l : List (String × StagedEntry)),
      (l.map fun x => key x.1) = (l.map (shown c)).map Prod.fst := by
    intro c l
    rw [List.map_map]
    rfl
  have hkeys' : (l'.map fun x => key x.1).Nodup := by
    rw [hkeysOf b, ← (hperm.map Prod.fst).nodup_iff, ← hkeysOf a]
    exact hkeys
  refine writeTar_eq howner ((ascending_effective _ a).eq (ascending_effective _ b) fun y => ?_)
  rw [mem_effective_ofList hkeys, mem_effective_ofList hkeys', hperm.mem_iff]

theorem effective_insert (s : Staging) (a : LayerAttributes) (path : String) (e : StagedEntry) :
    (s.insert path e).effective a =
      SortedMap.insertInto (key path) (e.effective a) (s.effective a) :=
  SortedMap.map_insertInto (StagedEntry.effective a) (key path) e s.entries.toList

end Staging

/-! ## Taking in files that show the same -/

/-- A file as a layer shows it: what it is, and its effective mode. -/
def SourceFile.view (a : LayerAttributes) (f : SourceFile) : SourceKind × Option UInt32 :=
  (f.kind, match f.kind with
    | .file _ => some (entryMode (some f.mode) a)
    | .symlink _ => none)

/-- A file with its path. -/
def SourceFile.placed (a : LayerAttributes) (f : SourceFile) : String × SourceKind × Option UInt32 :=
  (f.relative, f.view a)

theorem kind_of_placed_eq {a b : LayerAttributes} {f g : SourceFile} (h : f.placed a = g.placed b) :
    f.kind = g.kind := congrArg (·.2.1) h

theorem size_of_placed_eq {a b : LayerAttributes} {f g : SourceFile} (h : f.placed a = g.placed b) :
    f.size = g.size := by
  unfold SourceFile.size
  rw [kind_of_placed_eq h]

/-- Something in a tree as a layer shows it; nothing of a directory. -/
def Tree.view (a : LayerAttributes) : Tree → Option (SourceKind × Option UInt32)
  | .file content mode => some (.file content, some (entryMode (some (fileType ||| mode)) a))
  | .link target => some (.symlink target, none)
  | .dir _ => none

namespace Layer

open LayerAttributes

variable {d : LocalDir} {a b : LayerAttributes}

/-- The insertions for files that show the same show the same. -/
theorem insertion?_of_placed_eq {f g : SourceFile} (h : f.placed a = g.placed b) :
    (insertion? d f).map (fun x => (x.1, x.2.effective a)) =
      (insertion? d g).map fun x => (x.1, x.2.effective b) := by
  obtain ⟨path, kind, mode⟩ := f
  obtain ⟨path', kind', mode'⟩ := g
  obtain ⟨rfl, h⟩ := Prod.mk.inj h
  obtain ⟨rfl, hmode⟩ := Prod.mk.inj h
  unfold insertion? SourceFile.staged?
  cases kind with
  | file content =>
    have heffective := Option.some.inj hmode
    dsimp only [StagedEntry.effective, Option.map_some]
    rw [heffective]
  | symlink target =>
    dsimp only
    split <;> rfl

/-- What is staged so far shows the same, and so do the bytes. -/
structure Alike (a b : LayerAttributes) (i j : Intake) : Prop where
  bytes : i.bytes = j.bytes
  effective : i.staging.effective a = j.staging.effective b

theorem Alike.size {i j : Intake} (h : Alike a b i j) : i.staging.size = j.staging.size := by
  have hlength := congrArg List.length h.effective
  unfold Staging.effective at hlength
  rwa [List.length_map, List.length_map] at hlength

/-- One file keeps it so. -/
theorem Alike.add {i j : Intake} (h : Alike a b i j) {f g : SourceFile} (hfg : f.placed a = g.placed b) :
    Alike a b (i.add d f) (j.add d g) where
  bytes := by
    rw [Intake.bytes_add, Intake.bytes_add, h.bytes, size_of_placed_eq hfg]
  effective := by
    have hins := insertion?_of_placed_eq (d := d) hfg
    rw [Intake.staging_add, Intake.staging_add]
    cases hf : insertion? d f with
    | none =>
      rw [hf, Option.map_none, eq_comm, Option.map_eq_none_iff] at hins
      rw [hins]
      exact h.effective
    | some x =>
      cases hg : insertion? d g with
      | none =>
        rw [hf, hg] at hins
        cases hins
      | some y =>
        rw [hf, hg] at hins
        obtain ⟨hpath, heffective⟩ := Prod.mk.inj (Option.some.inj hins)
        show (i.staging.insert x.1 x.2).effective a = (j.staging.insert y.1 y.2).effective b
        rw [Staging.effective_insert, Staging.effective_insert, h.effective, hpath, heffective]

theorem overLimit?_alike {i j : Intake} (h : Alike a b i j) {f g : SourceFile}
    (hfg : f.placed a = g.placed b) : overLimit? d i f = overLimit? d j g := by
  unfold overLimit?
  rw [h.bytes, h.size, size_of_placed_eq hfg]

/-- Taking in readable files that show the same is refused for both, or what is staged shows the same. -/
theorem addAll_alike {i j : Intake} (h : Alike a b i j) {files files' : List SourceFile}
    (hfiles : files.map (SourceFile.placed a) = files'.map (SourceFile.placed b))
    (hread : ∀ f ∈ files, f.isReadable = true) (hread' : ∀ f ∈ files', f.isReadable = true) :
    (Intake.addAll d i files).1 = (Intake.addAll d j files').1 ∧
      Alike a b (Intake.addAll d i files).2 (Intake.addAll d j files').2 := by
  induction files generalizing files' i j with
  | nil =>
    rw [List.map_nil, eq_comm, List.map_eq_nil_iff] at hfiles
    subst hfiles
    exact ⟨rfl, h⟩
  | cons f rest ih =>
    cases files' with
    | nil => cases hfiles
    | cons g rest' =>
      rw [List.map_cons, List.map_cons] at hfiles
      obtain ⟨hfg, hrest⟩ := List.cons.inj hfiles
      have hlimit := overLimit?_alike (d := d) h hfg
      unfold Intake.addAll refusal?
      rw [hread f List.mem_cons_self, hread' g List.mem_cons_self, hlimit]
      cases overLimit? d j g with
      | some e => exact ⟨rfl, h⟩
      | none =>
        exact ih (h.add hfg) hrest (fun x hx => hread x (List.mem_cons_of_mem _ hx))
          fun x hx => hread' x (List.mem_cons_of_mem _ hx)

end Layer

end OciCompose
