import OciCompose.Proofs.Layer.Determinism

/-
  Limits of the layer of a directory.
  What was taken in without a refusal is within the limits (`within_addAll`), so a source that is
  `Over` one of them is refused (`refused_of_over`). A source that `Fits` is refused, too, if it is
  `Crowded`: a symlink that is left out counts where nothing more may get in (`refused_of_fits`).
-/

namespace OciCompose

/-- Whether a file or symlink gets into a layer. A symlink that leads out does not. -/
def SourceFile.enters (f : SourceFile) : Bool := f.staged?.isSome

theorem SourceFile.enters_eq_false {f : SourceFile} :
    f.enters = false ↔ ∃ target, f.kind = .symlink target ∧ Path.isAbsolute target = true := by
  unfold enters staged?
  cases f.kind with
  | file content => simp
  | symlink target =>
    dsimp only
    split
    · next habsolute => exact iff_of_true rfl ⟨target, rfl, habsolute⟩
    · next hrelative =>
      refine iff_of_false nofun ?_
      rintro ⟨t, heq, habsolute⟩
      cases heq
      exact hrelative habsolute

namespace Layer

open OciCompose.Tree

variable {top : Tree} {d : LocalDir} {children : List (String × Tree)} {files : List SourceFile}

/-! ## Counting -/

/-- How many of some files get into a layer. -/
def entering (files : List SourceFile) : Nat := files.countP SourceFile.enters

/-- The bytes of some files together. -/
def bytesOf (files : List SourceFile) : Nat := (files.map SourceFile.size).sum

theorem entering_append (files files' : List SourceFile) :
    entering (files ++ files') = entering files + entering files' := List.countP_append

theorem bytesOf_append (files files' : List SourceFile) :
    bytesOf (files ++ files') = bytesOf files + bytesOf files' := by
  unfold bytesOf
  rw [List.map_append, List.sum_append]

/-- No two of some files have one key in the image. -/
def KeysDistinct (d : LocalDir) (files : List SourceFile) : Prop :=
  ((files.filterMap (insertion? d)).map fun x => Staging.key x.1).Nodup

theorem KeysDistinct.left {files' : List SourceFile} (h : KeysDistinct d (files ++ files')) :
    KeysDistinct d files := by
  unfold KeysDistinct at h ⊢
  rw [List.filterMap_append, List.map_append] at h
  exact (List.nodup_append.1 h).1

/-- The files of a walk have distinct keys, the root itself included. -/
theorem keysDistinct_of_walk (hwf : (dir children).WellFormed)
    (hroot : top.resolve d.path = .ok (dir children)) (hwalk : top.walk d.path d.ignore = .ok files) :
    KeysDistinct d files := by
  rw [files_of_walk hwf hroot hwalk]
  refine nodup_insertions ?_ fun f hf => ?_
  · refine (ascending_found hwf top d.path).imp fun {f g} hlt heq => ?_
    rw [heq] at hlt
    exact String.lt_irrefl _ hlt
  · rcases List.mem_append.1 hf with hself | hbelow
    · obtain ⟨target, -, rfl⟩ := List.mem_map.1 hself
      exact ⟨[], isPlace_nil, rfl⟩
    · exact (lists_keptBelow hwf d.ignore).places hwf f hbelow

/-- Each file that gets in is staged. -/
theorem size_taken (h : KeysDistinct d files) :
    (files.foldl (Intake.add d) .empty).staging.size = entering files := by
  have hstaging : (files.foldl (Intake.add d) .empty).staging =
      Staging.ofList (files.filterMap (insertion? d)) := Intake.staging_foldl d .empty files
  have hsome : ∀ f, (insertion? d f).isSome = f.enters := fun f => Option.isSome_map
  rw [hstaging, Staging.size_ofList h, List.length_filterMap_eq_countP, entering]
  exact List.countP_congr fun f _ => by rw [hsome]

theorem bytes_taken (d : LocalDir) (files : List SourceFile) :
    (files.foldl (Intake.add d) .empty).bytes = UInt64.ofNat (bytesOf files) :=
  (Intake.bytes_foldl d .empty files).trans (UInt64.zero_add _)

/-! ## Sources over a limit -/

/-- What is taken in is within the limits. -/
structure Intake.Within (d : LocalDir) (i : Intake) : Prop where
  count : ∀ m, d.maxFiles = some m → i.staging.size ≤ m.toNat
  size : ∀ m, d.maxSize = some m → i.bytes ≤ m

theorem Intake.within_empty (d : LocalDir) : Intake.Within d .empty where
  count _ _ := Nat.zero_le _
  size _ _ := UInt64.zero_le

/-- A file that is not refused keeps it so. -/
theorem Intake.within_add {i : Intake} {f : SourceFile} (h : refusal? d i f = none) :
    Intake.Within d (i.add d f) := by
  obtain ⟨hfiles, hsize⟩ := Intake.overLimit?_eq_none (Intake.overLimit?_of_not_refused h)
  constructor
  case count =>
    intro m hm
    have hlt := hfiles m hm
    rw [Intake.staging_add]
    cases insertion? d f with
    | none => exact Nat.le_of_lt hlt
    | some x => exact Nat.le_trans (Staging.size_insert_le _ _ _) hlt
  case size =>
    intro m hm
    rw [Intake.bytes_add]
    exact hsize m hm

/-- Taking in without a refusal keeps within the limits. -/
theorem Intake.within_addAll {i i' : Intake} (hi : Intake.Within d i)
    (h : Intake.addAll d i files = (none, i')) : Intake.Within d i' := by
  induction files generalizing i with
  | nil =>
    cases h
    exact hi
  | cons f rest ih =>
    rw [Intake.addAll] at h
    split at h
    · cases h
    · next hrefusal => exact ih (Intake.within_add hrefusal) h

/-- All of a source can be read: its files may be, and a memory of 64 bits holds them. -/
structure Readable (files : List SourceFile) : Prop where
  allowed : ∀ f ∈ files, f.isReadable = true
  held : bytesOf files < 2 ^ 64

/-- A source is over a limit: more files and relative symlinks get in than may, or there are more
    bytes. -/
inductive Over (d : LocalDir) (files : List SourceFile) : Prop
  | count (m : UInt64) (limit : d.maxFiles = some m) (more : m.toNat < entering files)
  | size (m : UInt64) (limit : d.maxSize = some m) (more : m.toNat < bytesOf files)

/-- Nothing over a limit is taken in as a whole. -/
theorem Over.refused (hkeys : KeysDistinct d files) (hheld : bytesOf files < 2 ^ 64)
    (h : Over d files) {i : Intake} : Intake.addAll d .empty files ≠ (none, i) := by
  intro hadd
  have hwithin := Intake.within_addAll (Intake.within_empty d) hadd
  obtain ⟨rfl, -⟩ := Intake.addAll_ok hadd
  cases h with
  | count m limit more =>
    have hle := hwithin.count m limit
    rw [size_taken hkeys] at hle
    exact Nat.not_le_of_lt more hle
  | size m limit more =>
    have hle := UInt64.le_iff_toNat_le.1 (hwithin.size m limit)
    rw [bytes_taken, UInt64.toNat_ofNat_of_lt' hheld] at hle
    exact Nat.not_le_of_lt more hle

theorem layerBuilt_not_mem_skipped (links : List (String × String)) (source : String)
    (files bytes : Nat) (digest : String) :
    .layerBuilt source files bytes digest ∉ links.map skipped := by
  intro hmem
  obtain ⟨link, -, heq⟩ := List.mem_map.1 hmem
  cases heq

/-- A readable source that is over a limit is refused with an error that names a limit and what exceeds
    it, and no layer is reported. -/
theorem refused_of_over (hroot : top.resolve d.path = .ok (.dir children))
    (hwf : (dir children).WellFormed) (hwalk : top.walk d.path d.ignore = .ok files)
    (hread : Readable files) (hover : Over d files) (a : LayerAttributes) (gzip : Bytes → Bytes) :
    ∃ e, (ofDir top d a gzip).result = .error e ∧ Intake.Exceeds d e ∧
      ∀ source n bytes digest, .layerBuilt source n bytes digest ∉ (ofDir top d a gzip).events := by
  have hkeys := keysDistinct_of_walk hwf hroot hwalk
  rcases hadd : Intake.addAll d .empty files with ⟨_ | e, i⟩
  · exact absurd hadd (hover.refused hkeys hread.held)
  obtain ⟨before, f, after, hsplit, hi, hrefused⟩ := Intake.addAll_error hadd
  have hexceeds : Intake.Exceeds d e := by
    rcases Intake.refusal?_eq_some hrefused with ⟨-, hexceeds⟩ | ⟨-, hnot⟩
    · exact hexceeds
    · rw [hread.allowed f (hsplit ▸ List.mem_append_right _ List.mem_cons_self)] at hnot
      cases hnot
  have hevents : i.events = (before.filterMap SourceFile.outward?).map skipped :=
    hi ▸ Intake.events_foldl d .empty before
  rw [ofDir_of_refused top d a gzip hwalk hadd, hevents]
  exact ⟨e, rfl, hexceeds, fun source n bytes digest => layerBuilt_not_mem_skipped _ source n bytes digest⟩

/-- A directory of which one file may get in. -/
def atMostOne : LocalDir := { plain "t" with maxFiles := some 1 }

namespace Two

/-- Two files. -/
def entries : List (String × Tree) := [("b", .file [0x79] 0o644), ("a", .file [0x78] 0o644)]

def tree : Tree := .dir [("t", .dir entries)]

theorem wellFormed : (Tree.dir entries).WellFormed := by
  refine .dir ?_ (by simp [entries]) ?_
  · exact List.forall_mem_cons.2 ⟨by decide,
      List.forall_mem_singleton.2 (by decide : Path.IsName "a".toList)⟩
  · exact List.forall_mem_cons.2 ⟨.file _ _, List.forall_mem_singleton.2 (.file _ _)⟩

theorem resolve_t : tree.resolve "t" = .ok (.dir entries) :=
  resolve_dotted (n := 0) (by decide) (by decide) (by decide) rfl

theorem walk_t : tree.walk "t" .none = .ok (keptBelow .none entries) := by
  have hreal : ∀ target, tree.at? "t" ≠ some (.link target) := fun target h => by
    rw [tree, show ("t" : String) = dotted 0 "t" from rfl, at?_dotted 0 (by decide)] at h
    cases h
  obtain ⟨hfar, -⟩ | ⟨-, hwalk⟩ := walk_at wellFormed resolve_t .none
  · exact absurd hfar (not_meetsFar_of_near wellFormed resolve_t (by decide))
  · rw [hwalk, rootSource_of_real hreal, List.nil_append]

theorem perm_kept : (keptBelow .none entries).Perm (sourcesIn "" entries) := by
  refine (List.mergeSort_perm _ _).trans ?_
  rw [List.filter_eq_self.2 fun f _ => by rw [ignores_none]; rfl]

/-- They are refused. -/
theorem refused_of_over_two : ∃ actual, 1 < actual ∧
    (ofDir tree atMostOne {} Gzip.stored).result = .error (.limitExceeded .files actual 1) := by
  have hcount : entering (keptBelow .none entries) = 2 := perm_kept.countP_eq _
  have hbytes : bytesOf (keptBelow .none entries) = 2 := (perm_kept.map _).sum_nat
  have hread : Readable (keptBelow .none entries) :=
    ⟨fun f hf => (by decide : ∀ f ∈ sourcesIn "" entries, f.isReadable = true) f
      (perm_kept.mem_iff.1 hf), by rw [hbytes]; decide⟩
  obtain ⟨e, hresult, hexceeds, -⟩ := refused_of_over (d := atMostOne) resolve_t wellFormed walk_t hread
    (.count 1 rfl (by rw [hcount]; decide)) {} Gzip.stored
  cases hexceeds with
  | files m actual limit more =>
    cases limit
    exact ⟨actual, more, hresult⟩
  | size m actual limit more => cases limit

end Two

/-! ## Sources within the limits -/

/-- No more files and relative symlinks get in than may, and there are no more bytes. -/
structure Fits (d : LocalDir) (files : List SourceFile) : Prop where
  count : ∀ m, d.maxFiles = some m → entering files ≤ m.toNat
  size : ∀ m, d.maxSize = some m → bytesOf files ≤ m.toNat

/-- As many get in as may, and a symlink that leads out comes last. -/
structure Crowded (d : LocalDir) (files : List SourceFile) (m : UInt64) : Prop where
  limit : d.maxFiles = some m
  full : entering files = m.toNat
  last : ∃ last target, files.getLast? = some last ∧ last.kind = .symlink target ∧
    Path.isAbsolute target = true

/-- A file that exceeds a limit of a source that fits comes when nothing more may get in. -/
theorem crowded_of_overLimit {before after : List SourceFile} {f : SourceFile}
    (hkeys : KeysDistinct d (before ++ f :: after)) (hfits : Fits d (before ++ f :: after)) {e : Error}
    (h : overLimit? d (before.foldl (Intake.add d) .empty) f = some e) :
    ∃ m, Crowded d (before ++ f :: after) m ∧ e = .limitExceeded .files (m.toNat + 1) m.toNat := by
  rcases Intake.overLimit?_eq_some h with ⟨m, hm, hle, rfl⟩ | ⟨m, hm, hlt, -⟩
  · rw [size_taken hkeys.left] at hle ⊢
    have hmost := hfits.count m hm
    have hsum := entering_append before (f :: after)
    have hnone : entering (f :: after) = 0 := by omega
    have hcount : entering before = m.toNat := by omega
    have hne : f :: after ≠ [] := List.cons_ne_nil f after
    have hlast : (before ++ f :: after).getLast? = some ((f :: after).getLast hne) := by
      rw [List.getLast?_append, List.getLast?_eq_some_getLast hne]
      rfl
    have hout := List.countP_eq_zero.1 hnone _ (List.getLast_mem hne)
    obtain ⟨target, hkind, habsolute⟩ := SourceFile.enters_eq_false.1 (Bool.eq_false_iff.2 hout)
    refine ⟨m, ⟨hm, by omega, _, target, hlast, hkind, habsolute⟩, ?_⟩
    rw [hcount]
  · -- the bytes up to here are some of those that are within the limit
    rw [bytes_taken, ← UInt64.ofNat_add, UInt64.lt_iff_toNat_lt, UInt64.toNat_ofNat'] at hlt
    have hmost := hfits.size m hm
    have hsum : bytesOf (before ++ f :: after) = bytesOf before + (f.size + bytesOf after) :=
      bytesOf_append before (f :: after)
    have hmod := Nat.mod_le (bytesOf before + f.size) (2 ^ 64)
    omega

/-- A crowded source is not taken in as a whole. -/
theorem Crowded.refused {m : UInt64} (hkeys : KeysDistinct d files) (h : Crowded d files m) {i : Intake} :
    Intake.addAll d .empty files ≠ (none, i) := by
  intro hadd
  obtain ⟨last, target, hlast, hkind, habsolute⟩ := h.last
  obtain ⟨before, rfl⟩ := List.getLast?_eq_some_iff.1 hlast
  have hlimit := Intake.overLimit?_of_not_refused ((Intake.addAll_ok hadd).2 before last [] rfl)
  have hroom := (Intake.overLimit?_eq_none hlimit).1 m h.limit
  have hfull := h.full
  have hout : entering [last] = 0 := by
    have hnot := SourceFile.enters_eq_false.2 ⟨target, hkind, habsolute⟩
    unfold entering
    rw [List.countP_singleton, hnot]
    rfl
  rw [entering_append, hout, Nat.add_zero, ← size_taken hkeys.left] at hfull
  exact Nat.lt_irrefl _ (hfull ▸ hroom)

/-- Where a limit is the reason, it refuses one of the files. -/
theorem addAll_of_limitExceeded (hroot : top.resolve d.path = .ok (.dir children))
    (hwf : (dir children).WellFormed) {a : LayerAttributes} {gzip : Bytes → Bytes} {what : Limited}
    {actual limit : Nat}
    (h : (ofDir top d a gzip).result = .error (.limitExceeded what actual limit)) :
    ∃ files i, top.walk d.path d.ignore = .ok files ∧
      Intake.addAll d .empty files = (some (.limitExceeded what actual limit), i) := by
  obtain ⟨-, path, hwalk⟩ | ⟨-, hwalk⟩ := walk_at hwf hroot d.ignore
  · rw [result_of_error top d a gzip hwalk] at h
    cases h
  rcases hadd : Intake.addAll d .empty (rootSource top d.path ++ keptBelow d.ignore children)
    with ⟨_ | e, i⟩
  · rw [result_of_taken top d a gzip hwalk (congrArg Prod.fst hadd), ofIntake] at h
    split at h
    · cases h
    · rw [ofStaging] at h
      rcases writeTar_cases (Intake.addAll d .empty _).2.staging a with ⟨fault, hwrite⟩ | ⟨tar, hwrite⟩
      · rw [hwrite] at h
        cases h
      · rw [hwrite] at h
        cases h
  · rw [result_of_refused top d a gzip hwalk (congrArg Prod.fst hadd)] at h
    obtain rfl := Except.error.inj h
    exact ⟨_, i, hwalk, hadd⟩

/-- A source that fits is refused over a limit only if it is crowded: then the symlink that comes last
    would be one file too many. A readable source that is crowded is refused so. -/
theorem refused_of_fits (hroot : top.resolve d.path = .ok (.dir children))
    (hwf : (dir children).WellFormed)
    (hfits : ∀ files, top.walk d.path d.ignore = .ok files → Fits d files) (a : LayerAttributes)
    (gzip : Bytes → Bytes) :
    (∀ what actual limit, (ofDir top d a gzip).result = .error (.limitExceeded what actual limit) →
      ∃ files m, top.walk d.path d.ignore = .ok files ∧ Crowded d files m ∧
        what = .files ∧ actual = m.toNat + 1 ∧ limit = m.toNat) ∧
    (∀ files m, top.walk d.path d.ignore = .ok files → (∀ f ∈ files, f.isReadable = true) →
      Crowded d files m →
      (ofDir top d a gzip).result = .error (.limitExceeded .files (m.toNat + 1) m.toNat)) := by
  constructor
  · intro what actual limit hresult
    obtain ⟨files, i, hwalk, hadd⟩ := addAll_of_limitExceeded hroot hwf hresult
    have hkeys := keysDistinct_of_walk hwf hroot hwalk
    obtain ⟨before, f, after, rfl, rfl, hrefused⟩ := Intake.addAll_error hadd
    rcases Intake.refusal?_eq_some hrefused with ⟨hover, -⟩ | ⟨hnot, -⟩
    · obtain ⟨m, hcrowded, heq⟩ := crowded_of_overLimit hkeys (hfits _ hwalk) hover
      cases heq
      exact ⟨_, m, hwalk, hcrowded, rfl, rfl, rfl⟩
    · cases hnot
  · intro files m hwalk hread hcrowded
    have hkeys := keysDistinct_of_walk hwf hroot hwalk
    rcases hadd : Intake.addAll d .empty files with ⟨_ | e, i⟩
    · exact absurd hadd (hcrowded.refused hkeys)
    obtain ⟨before, f, after, rfl, rfl, hrefused⟩ := Intake.addAll_error hadd
    rcases Intake.refusal?_eq_some hrefused with ⟨hover, -⟩ | ⟨-, hnot⟩
    · obtain ⟨m', hcrowded', rfl⟩ := crowded_of_overLimit hkeys (hfits _ hwalk) hover
      obtain rfl := Option.some.inj (hcrowded.limit.symm.trans hcrowded'.limit)
      rw [ofDir_of_refused top d a gzip hwalk hadd]
    · rw [hread f (List.mem_append_right _ List.mem_cons_self)] at hnot
      cases hnot

open Layer.Small in
/-- A source that fits is refused for the symlink behind its only file. -/
theorem refused_of_fits_small :
    Fits atMostOne [⟨"a", .file [0x78], fileType ||| 0o644⟩, ⟨"b", .symlink "/x", symlinkMode⟩] ∧
    (ofDir (tree 0o644) atMostOne {} Gzip.stored).result = .error (.limitExceeded .files 2 1) := by
  have hfits : Fits atMostOne
      [⟨"a", .file [0x78], fileType ||| 0o644⟩, ⟨"b", .symlink "/x", symlinkMode⟩] :=
    ⟨fun m hm => by cases hm; decide, nofun⟩
  have hall : ∀ files, (tree 0o644).walk atMostOne.path atMostOne.ignore = .ok files →
      Fits atMostOne files := by
    intro files hwalk
    obtain rfl := Except.ok.inj ((walk_t 0o644).symm.trans hwalk)
    exact hfits
  have hrefused :=
    refused_of_fits (d := atMostOne) (resolve_t 0o644) (wellFormed 0o644) hall {} Gzip.stored
  exact ⟨hfits, hrefused.2 _ 1 (walk_t 0o644) (by decide)
    ⟨rfl, by decide, _, "/x", rfl, rfl, by decide⟩⟩

end Layer

end OciCompose
