import OciCompose.Proofs.Layer.Directory
import OciCompose.Proofs.Layer.Shown

/-
  What the layer of a directory depends on.
  Walks of trees that show the same list files that show the same, in one order (`map_placed_keptBelow`).
  `deterministic`: so builds of two such trees agree. `not_agree`: they may not if one root is too far up, a
  symlink, or above a file that may not be read.
-/

namespace OciCompose

namespace Layer

open LayerAttributes

variable {d : LocalDir} {a b : LayerAttributes}

/-! ## Walks of trees that show the same -/

variable {top top' : Tree} {root : String} {children children' : List (String × Tree)}
  {gzip gzip' : Bytes → Bytes}
  {ignore : IgnoreRules}

/-- Two directories show the same: at each place a file with the same content and effective mode, or a
    symlink with the same target. -/
def ShowSame (a b : LayerAttributes) (children children' : List (String × Tree)) : Prop :=
  ∀ place, (Tree.child? place (.dir children)).bind (Tree.view a) =
    (Tree.child? place (.dir children')).bind (Tree.view b)

theorem view_source? {path : String} {leaf : Tree} {f : SourceFile} (h : leaf.source? path = some f) :
    leaf.view a = some (f.view a) := by
  cases leaf <;> cases h <;> rfl

theorem exists_source?_of_view {leaf : Tree} {v : SourceKind × Option UInt32}
    (h : leaf.view a = some v) (path : String) :
    ∃ f, leaf.source? path = some f ∧ f.placed a = (path, v) := by
  cases leaf with
  | dir children => cases h
  | file content mode =>
    cases h
    exact ⟨_, rfl, rfl⟩
  | link target =>
    cases h
    exact ⟨_, rfl, rfl⟩

theorem mem_map_placed (hwf : (Tree.dir children).WellFormed) {path : String}
    {v : SourceKind × Option UInt32} :
    (path, v) ∈ (Tree.keptBelow ignore children).map (SourceFile.placed a) ↔
      ∃ place, (Tree.child? place (.dir children)).bind (Tree.view a) = some v ∧
        ignore.ignores path = false ∧ Tree.placePath place = path := by
  constructor
  · intro hmem
    obtain ⟨f, hf, heq⟩ := List.mem_map.1 hmem
    obtain ⟨hsource, hkept⟩ := Tree.mem_keptBelow.1 hf
    obtain ⟨place, leaf, hleaf, hsource⟩ := (Tree.mem_sourcesIn hwf).1 hsource
    obtain ⟨rfl, rfl⟩ := Prod.mk.inj heq
    refine ⟨place, ?_, hkept, (Tree.relative_source? hsource).symm⟩
    rw [hleaf, Option.bind_some, view_source? hsource]
  · rintro ⟨place, hview, hkept, rfl⟩
    obtain ⟨leaf, hleaf, hview⟩ := Option.bind_eq_some_iff.1 hview
    obtain ⟨f, hsource, hplaced⟩ := exists_source?_of_view hview (Tree.placePath place)
    refine List.mem_map.2 ⟨f, Tree.mem_keptBelow.2 ⟨?_, ?_⟩, hplaced⟩
    · exact (Tree.mem_sourcesIn hwf).2 ⟨place, leaf, hleaf, hsource⟩
    · rw [Tree.relative_source? hsource, hkept]

/-- What the rules leave of them shows the same, in the same order. -/
theorem map_placed_keptBelow (hwf : (Tree.dir children).WellFormed)
    (hwf' : (Tree.dir children').WellFormed) (h : ShowSame a b children children')
    (ignore : IgnoreRules) :
    (Tree.keptBelow ignore children).map (SourceFile.placed a) =
      (Tree.keptBelow ignore children').map (SourceFile.placed b) := by
  refine Ascending.eq ?_ ?_ fun x => ?_
  · exact List.pairwise_map.2 (Tree.ascending_keptBelow hwf)
  · exact List.pairwise_map.2 (Tree.ascending_keptBelow hwf')
  · obtain ⟨path, v⟩ := x
    rw [mem_map_placed hwf, mem_map_placed hwf']
    simp only [h _]

/-- A file that is not ignored may not be read. -/
def Unreadable (ignore : IgnoreRules) (children : List (String × Tree)) : Prop :=
  ∃ place content mode, Retained ignore children place (.file content mode) ∧
    Tree.isReadable mode = false

theorem isReadable_fileType (mode : UInt32) :
    Tree.isReadable (Tree.fileType ||| mode) = Tree.isReadable mode := by
  have hdisjoint : ∀ i, (h : i < 32) →
      (Tree.fileType.toBitVec[i] && (0o400 : UInt32).toBitVec[i]) = false := by decide
  have hmask : (Tree.fileType ||| mode) &&& 0o400 = mode &&& 0o400 := by
    rw [← UInt32.toBitVec_inj, UInt32.toBitVec_and, UInt32.toBitVec_and, UInt32.toBitVec_or]
    ext i hi
    rw [BitVec.getElem_and, BitVec.getElem_and, BitVec.getElem_or, Bool.and_or_distrib_right,
      hdisjoint i hi, Bool.false_or]
  unfold Tree.isReadable
  rw [hmask]

theorem unreadable_iff (hwf : (Tree.dir children).WellFormed) :
    Unreadable ignore children ↔ ∃ f ∈ Tree.keptBelow ignore children, f.isReadable = false := by
  constructor
  · rintro ⟨place, content, mode, hretained, hread⟩
    refine ⟨⟨Tree.placePath place, .file content, Tree.fileType ||| mode⟩,
      Tree.mem_keptBelow.2 ⟨?_, hretained.kept⟩, (isReadable_fileType mode).trans hread⟩
    exact (Tree.mem_sourcesIn hwf).2 ⟨place, _, hretained.found, rfl⟩
  · rintro ⟨f, hf, hread⟩
    obtain ⟨hsource, hkept⟩ := Tree.mem_keptBelow.1 hf
    obtain ⟨place, leaf, hleaf, hsource⟩ := (Tree.mem_sourcesIn hwf).1 hsource
    cases leaf with
    | dir inner => cases hsource
    | link target =>
      cases hsource
      cases hread
    | file content mode =>
      cases hsource
      exact ⟨place, content, mode, ⟨hleaf, rfl, hkept⟩, (isReadable_fileType mode).symm.trans hread⟩

/-- An unreadable file is refused, if not something before it is. -/
theorem addAll_unreadable {i : Intake} {files : List SourceFile} {f : SourceFile} (hf : f ∈ files)
    (hread : f.isReadable = false) : ∃ e, (Intake.addAll d i files).1 = some e := by
  induction files generalizing i with
  | nil => cases hf
  | cons g rest ih =>
    unfold Intake.addAll
    cases hrefusal : refusal? d i g with
    | some e => exact ⟨e, rfl⟩
    | none =>
      rcases List.mem_cons.1 hf with rfl | hf
      · unfold refusal? at hrefusal
        rw [hread] at hrefusal
        split at hrefusal <;> cases hrefusal
      · exact ih hf

/-! ## The root -/

/-- The target of a root that is a symlink and does not lead out. Such a root is an entry itself. -/
def relativeRoot? (top : Tree) (root : String) : Option String :=
  (Tree.rootLink? top root).filter fun target => !Path.isAbsolute target

def relativeRoot (top : Tree) (root : String) : List SourceFile :=
  (relativeRoot? top root).toList.map fun target => ⟨"", .symlink target, Tree.symlinkMode⟩

/-- Where no file at all is allowed there is no layer. -/
theorem addAll_noFiles (h : d.maxFiles = some 0) (files : List SourceFile) :
    (∃ e, (Intake.addAll d .empty files).1 = some e) ∨
      (Intake.addAll d .empty files).2 = Intake.empty := by
  cases files with
  | nil => exact .inr rfl
  | cons f rest =>
    refine .inl ?_
    unfold Intake.addAll refusal? overLimit?
    rw [h]
    exact ⟨_, rfl⟩

theorem overLimit?_empty (h : d.maxFiles ≠ some 0) {f : SourceFile} (hsize : f.size = 0) :
    overLimit? d .empty f = none := by
  have hfiles : d.maxFiles.filter (fun m => m.toNat ≤ Intake.empty.staging.size) = none := by
    rw [Option.filter_eq_none_iff]
    intro m hm hle
    have hzero : m = 0 := UInt64.toNat_inj.1 (Nat.le_zero.1 (of_decide_eq_true hle))
    exact h (hzero ▸ hm)
  unfold overLimit?
  dsimp only
  rw [hfiles, hsize]
  dsimp only
  rw [Option.map_eq_none_iff, Option.filter_eq_none_iff]
  intro m _ hlt
  exact absurd (of_decide_eq_true hlt) (Nat.not_lt_zero _)

/-- Else a root that leads out leaves nothing but a warning. -/
theorem addAll_rootSource (h : d.maxFiles ≠ some 0) (top : Tree) (root : String)
    (files : List SourceFile) :
    ∃ i : Intake, i.bytes = 0 ∧ i.staging = .empty ∧
      Intake.addAll d .empty (Tree.rootSource top root ++ files) =
        Intake.addAll d i (relativeRoot top root ++ files) := by
  unfold Tree.rootSource relativeRoot relativeRoot?
  cases Tree.rootLink? top root with
  | none => exact ⟨.empty, rfl, rfl, rfl⟩
  | some target =>
    cases habsolute : Path.isAbsolute target with
    | false =>
      rw [Option.filter_some, habsolute, Bool.not_false, if_pos rfl]
      exact ⟨.empty, rfl, rfl, rfl⟩
    | true =>
      rw [Option.filter_some, habsolute, Bool.not_true, if_neg Bool.false_ne_true]
      have hnone : insertion? d ⟨"", .symlink target, Tree.symlinkMode⟩ = none := by
        unfold insertion? SourceFile.staged?
        dsimp only
        rw [habsolute]
        rfl
      refine ⟨Intake.empty.add d ⟨"", .symlink target, Tree.symlinkMode⟩, ?_, ?_, ?_⟩
      · rw [Intake.bytes_add]
        rfl
      · rw [Intake.staging_add, hnone]
        rfl
      · show Intake.addAll d .empty (⟨"", .symlink target, Tree.symlinkMode⟩ :: files) = _
        rw [Intake.addAll, refusal?, overLimit?_empty h rfl]
        rfl

/-! ## Two builds -/

/-- Two builds both fail, or give archives with one digest. -/
inductive Agree : Except Error Layer → Except Error Layer → Prop
  | failed (e e' : Error) : Agree (.error e) (.error e')
  | built (l l' : Layer) (diffId : l.diffId = l'.diffId) : Agree (.ok l) (.ok l')

/-- Stagings that show the same give the same. -/
theorem agree_ofIntake (source source' : String) {s t : Staging} (howner : SameOwner a b)
    (h : s.effective a = t.effective b) :
    Agree (ofIntake a gzip source s) (ofIntake b gzip' source' t) := by
  have hempty : s.isEmpty = t.isEmpty := by
    have hnil := congrArg List.isEmpty h
    unfold Staging.effective at hnil
    rwa [List.isEmpty_map, List.isEmpty_map] at hnil
  unfold ofIntake ofStaging
  rw [hempty, Staging.writeTar_eq howner h]
  split
  · exact .failed _ _
  · rcases writeTar_cases t b with ⟨fault, hwrite⟩ | ⟨tar, hwrite⟩
    · rw [hwrite]
      exact .failed _ _
    · rw [hwrite]
      exact .built _ _ rfl

/-- Where the source is makes no difference to what is taken in. -/
theorem addAll_path (d : LocalDir) (root : String) (i : Intake) (files : List SourceFile) :
    Intake.addAll { d with path := root } i files = Intake.addAll d i files := by
  induction files generalizing i with
  | nil => rfl
  | cons f rest ih =>
    rw [Intake.addAll, Intake.addAll, ih]
    rfl

theorem exists_error_of_noFiles (top : Tree) (a : LayerAttributes) (gzip : Bytes → Bytes)
    (h : d.maxFiles = some 0) {files : List SourceFile} (hwalk : top.walk d.path d.ignore = .ok files) :
    ∃ e, (ofDir top d a gzip).result = .error e := by
  cases hadd : (Intake.addAll d .empty files).1 with
  | some e => exact ⟨e, result_of_refused top d a gzip hwalk hadd⟩
  | none =>
    rcases addAll_noFiles h files with ⟨e, he⟩ | hempty
    · rw [hadd] at he
      cases he
    · rw [result_of_taken top d a gzip hwalk hadd, hempty]
      exact ⟨_, if_pos rfl⟩

theorem readable_files {files : List SourceFile} (top : Tree) (root : String)
    (h : ¬ ∃ f ∈ files, f.isReadable = false) :
    ∀ f ∈ relativeRoot top root ++ files, f.isReadable = true := by
  intro f hf
  rcases List.mem_append.1 hf with hself | hf
  · obtain ⟨target, -, rfl⟩ := List.mem_map.1 hself
    rfl
  · cases hread : f.isReadable with
    | false => exact absurd ⟨f, hf, hread⟩ h
    | true => rfl

/-- Walks that find readable files which show the same, behind the same root entries. -/
theorem agree_of_walks {root' : String} {files files' : List SourceFile} (howner : SameOwner a b)
    (hwalk : top.walk d.path d.ignore = .ok (Tree.rootSource top d.path ++ files))
    (hwalk' : top'.walk root' d.ignore = .ok (Tree.rootSource top' root' ++ files'))
    (hentry : relativeRoot? top d.path = relativeRoot? top' root')
    (hfiles : files.map (SourceFile.placed a) = files'.map (SourceFile.placed b))
    (hread : ¬ ∃ f ∈ files, f.isReadable = false) (hread' : ¬ ∃ f ∈ files', f.isReadable = false)
    (hsome : d.maxFiles ≠ some 0) :
    Agree (ofDir top d a gzip).result (ofDir top' { d with path := root' } b gzip').result := by
  obtain ⟨i, hbytes, hstaging, hadd⟩ := addAll_rootSource hsome top d.path files
  obtain ⟨j, hbytes', hstaging', hadd'⟩ := addAll_rootSource hsome top' root' files'
  have hstart : Alike a b i j := ⟨hbytes.trans hbytes'.symm, by rw [hstaging, hstaging']; rfl⟩
  have hall : (relativeRoot top d.path ++ files).map (SourceFile.placed a) =
      (relativeRoot top' root' ++ files').map (SourceFile.placed b) := by
    unfold relativeRoot
    rw [hentry, List.map_append, List.map_append, List.map_map, List.map_map, hfiles]
    rfl
  obtain ⟨hrefused, halike⟩ := addAll_alike (d := d) hstart hall (readable_files top d.path hread)
    (readable_files top' root' hread')
  rw [← hadd, ← hadd', ← addAll_path d root' .empty (Tree.rootSource top' root' ++ files')]
    at hrefused halike
  cases hres : (Intake.addAll d .empty (Tree.rootSource top d.path ++ files)).1 with
  | some e =>
    rw [result_of_refused top d a gzip hwalk hres,
      result_of_refused top' { d with path := root' } b gzip' hwalk' (hrefused.symm.trans hres)]
    exact .failed _ _
  | none =>
    rw [result_of_taken top d a gzip hwalk hres,
      result_of_taken top' { d with path := root' } b gzip' hwalk' (hrefused.symm.trans hres)]
    exact agree_ofIntake _ _ howner halike.effective

/-- Directories that show the same, behind the same root entries. -/
theorem agree_ofDir {root' : String} (howner : SameOwner a b)
    (hroot : top.resolve d.path = .ok (.dir children))
    (hroot' : top'.resolve root' = .ok (.dir children'))
    (hwf : (Tree.dir children).WellFormed) (hwf' : (Tree.dir children').WellFormed)
    (hentry : relativeRoot? top d.path = relativeRoot? top' root')
    (hshow : ShowSame a b children children')
    (hfar : Tree.MeetsFar d.path d.ignore children ↔ Tree.MeetsFar root' d.ignore children')
    (hread : Unreadable d.ignore children ↔ Unreadable d.ignore children') :
    Agree (ofDir top d a gzip).result (ofDir top' { d with path := root' } b gzip').result := by
  obtain ⟨hmeets, p, hwalk⟩ | ⟨hnear, hwalk⟩ := Tree.walk_at hwf hroot d.ignore
  · obtain ⟨-, p', hwalk'⟩ | ⟨hnear', -⟩ := Tree.walk_at hwf' hroot' d.ignore
    · rw [result_of_error top d a gzip hwalk,
        result_of_error top' { d with path := root' } b gzip' hwalk']
      exact .failed _ _
    · exact absurd (hfar.1 hmeets) hnear'
  obtain ⟨hmeets', -⟩ | ⟨-, hwalk'⟩ := Tree.walk_at hwf' hroot' d.ignore
  · exact absurd (hfar.2 hmeets') hnear
  rw [unreadable_iff hwf, unreadable_iff hwf'] at hread
  by_cases hunreadable : ∃ f ∈ Tree.keptBelow d.ignore children, f.isReadable = false
  · obtain ⟨f, hf, hfread⟩ := hunreadable
    obtain ⟨g, hg, hgread⟩ := hread.1 ⟨f, hf, hfread⟩
    obtain ⟨e, he⟩ := addAll_unreadable (d := d) (i := .empty)
      (List.mem_append_right (Tree.rootSource top d.path) hf) hfread
    obtain ⟨e', he'⟩ := addAll_unreadable (d := { d with path := root' }) (i := .empty)
      (List.mem_append_right (Tree.rootSource top' root') hg) hgread
    rw [result_of_refused top d a gzip hwalk he,
      result_of_refused top' { d with path := root' } b gzip' hwalk' he']
    exact .failed _ _
  by_cases hnone : d.maxFiles = some 0
  · obtain ⟨e, he⟩ := exists_error_of_noFiles top a gzip hnone hwalk
    obtain ⟨e', he'⟩ :=
      exists_error_of_noFiles (d := { d with path := root' }) top' b gzip' hnone hwalk'
    rw [he, he']
    exact .failed _ _
  exact agree_of_walks howner hwalk hwalk' hentry (map_placed_keptBelow hwf hwf' hshow d.ignore)
    hunreadable (fun h => hunreadable (hread.2 h)) hnone

/-- Content that shows the same gives one archive in whatever order it is inserted. Trees that show the
    same agree wherever they are, if both or neither has something too far from the root, both or neither
    has a file that may not be read, and the roots are not symlinks or lead to the same target. -/
theorem deterministic :
    (∀ (l l' : List (String × StagedEntry)) (a b : LayerAttributes), SameOwner a b →
      (l.map fun x => Staging.key x.1).Nodup →
      (l.map (Staging.shown a)).Perm (l'.map (Staging.shown b)) →
      (Staging.ofList l).writeTar a = (Staging.ofList l').writeTar b) ∧
    ∀ (top top' : Tree) (d : LocalDir) (root' : String) (children children' : List (String × Tree))
      (a b : LayerAttributes) (gzip gzip' : Bytes → Bytes), SameOwner a b →
      top.resolve d.path = .ok (.dir children) → top'.resolve root' = .ok (.dir children') →
      (Tree.dir children).WellFormed → (Tree.dir children').WellFormed →
      relativeRoot? top d.path = relativeRoot? top' root' →
      ShowSame a b children children' →
      (Tree.MeetsFar d.path d.ignore children ↔ Tree.MeetsFar root' d.ignore children') →
      (Unreadable d.ignore children ↔ Unreadable d.ignore children') →
      Agree (ofDir top d a gzip).result (ofDir top' { d with path := root' } b gzip').result := by
  refine ⟨fun l l' a b howner hkeys hperm => Staging.writeTar_ofList howner hkeys hperm, ?_⟩
  intro top top' d root' children children' a b gzip gzip' howner hroot hroot' hwf hwf' hentry hshow
    hfar hread
  exact agree_ofDir howner hroot hroot' hwf hwf' hentry hshow hfar hread

namespace Small

open OciCompose.Tree

/-- Directories whose files show the same mode show the same, in whatever order they are listed. -/
theorem showSame {m m' : UInt32} (h : (Tree.file [0x78] m).view a = (Tree.file [0x78] m').view b)
    (hperm : (entries m').Perm children') : ShowSame a b (entries m) children' := by
  intro place
  cases place with
  | nil => rfl
  | cons n rest =>
    rw [← child?_perm (wellFormed m') hperm]
    unfold entries child?
    simp only [List.lookup_cons, List.lookup_nil]
    split
    · cases rest <;> rfl
    · split
      · cases rest with
        | nil => exact h
        | cons _ _ => rfl
      · rfl

theorem not_unreadable {mode : UInt32} (hperm : (entries mode).Perm children)
    (hmode : Tree.isReadable mode = true) : ¬ Unreadable .none children := by
  rintro ⟨place, content, m, hretained, hread⟩
  rcases child?_entries hperm hretained.found with ⟨-, heq⟩ | ⟨-, heq⟩ | ⟨-, heq⟩
  · cases heq
  · cases heq
  · obtain rfl := (Tree.file.inj heq).2
    rw [hmode] at hread
    cases hread

/-- The same directory, listed in the other order, with another mode. -/
def elsewhere : Tree := .dir [("t", .dir (entries 0o600).reverse)]

theorem deterministic_small :
    (Staging.ofList [("a", .file [0x78] (some 0o600)), ("b", .symlink "a")]).writeTar {} =
      (Staging.ofList [("/b", .symlink "a"), ("/a", .file [0x78] (some 0o644))]).writeTar {} ∧
    Agree (ofDir (tree 0o644) (plain "t") {} Gzip.stored).result
      (ofDir elsewhere (plain (dotted 1 "t")) {} Gzip.stored).result := by
  have hperm : (entries 0o600).Perm (entries 0o600).reverse := (List.reverse_perm _).symm
  have hroot : elsewhere.resolve (dotted 1 "t") = .ok (.dir (entries 0o600).reverse) :=
    resolve_dotted (by decide) (by decide) (by decide) rfl
  have hentry : relativeRoot? (tree 0o644) "t" = relativeRoot? elsewhere (dotted 1 "t") := by
    unfold relativeRoot? rootLink? elsewhere
    rw [at?_t, at?_dotted 1 (by decide)]
    rfl
  refine ⟨deterministic.1 _ _ {} {} ⟨rfl, rfl⟩ (by decide) (List.Perm.swap _ _ _), ?_⟩
  exact deterministic.2 (tree 0o644) elsewhere (plain "t") (dotted 1 "t") _ _ {} {} _ _ ⟨rfl, rfl⟩
    (resolve_t 0o644) hroot (wellFormed 0o644) ((wellFormed 0o600).perm hperm) hentry
    (showSame (by decide) hperm)
    (iff_of_false (not_meetsFar (.refl _) (by decide)) (not_meetsFar hperm (by decide)))
    (iff_of_false (not_unreadable (.refl _) (by decide)) (not_unreadable hperm (by decide)))

/-! ### Where trees that show the same disagree -/

theorem resolve_l (mode : UInt32) : (tree mode).resolve "l" = .ok (.dir (entries mode)) := by
  have hfault : pathFault? "l" = none := pathFault?_dotted 0 (by decide) (by decide)
  have habsolute : Path.isAbsolute "l" = false := by decide
  have hl : steps "l" = [.child "l"] := by decide
  have ht : steps "t" = [.child "t"] := by decide
  rw [resolve, hfault, habsolute, hl, if_neg Bool.false_ne_true, tree, maxLinks]
  dsimp only
  rw [follow_link (by decide) rfl (by decide) (by decide), ht]
  exact follow_dir (by decide) rfl

theorem at?_l (mode : UInt32) : (tree mode).at? "l" = some (.link "t") := at?_dotted 0 (by decide)

theorem rootSource_l (mode : UInt32) :
    rootSource (tree mode) "l" = [⟨"", .symlink "t", symlinkMode⟩] := rootSource_of_link (at?_l mode)

/-- A root that is a symlink is an entry without a name. -/
theorem result_l : ∃ e, (ofDir (tree 0o644) (plain "l") {} Gzip.stored).result = .error e := by
  have hwalk := walk_eq (resolve_l 0o644) (not_meetsFar (.refl _) (by decide))
  rw [rootSource_l] at hwalk
  rw [result_of_taken (tree 0o644) (plain "l") {} Gzip.stored hwalk rfl]
  exact ⟨_, rfl⟩

/-- A file that its owner may not read. -/
theorem result_unreadable : ∃ e, (ofDir (tree 0o044) (plain "t") {} Gzip.stored).result = .error e :=
  ⟨_, result_of_refused (tree 0o044) (plain "t") {} Gzip.stored (walk_t 0o044) rfl⟩

/-- A root below which nothing may be looked at. -/
theorem result_far : ∃ e, (ofDir (tree 0o644) (plain Far.root) {} Gzip.stored).result = .error e := by
  have hroot : (tree 0o644).resolve Far.root = .ok (.dir (entries 0o644)) := resolve_dots (by decide) _
  obtain ⟨-, path, hwalk⟩ | ⟨hnear, -⟩ := walk_cases (wellFormed 0o644) hroot .none
  · exact ⟨_, result_of_error (tree 0o644) (plain Far.root) {} Gzip.stored hwalk⟩
  · exact absurd (Far.meetsFar_small 0o644) hnear

/-- Of four directories that show the same one has a layer. -/
theorem not_agree :
    (∃ layer, (ofDir (tree 0o644) (plain "t") {} Gzip.stored).result = .ok layer) ∧
    ((tree 0o644).resolve "t" = .ok (.dir (entries 0o644)) ∧ (Tree.dir (entries 0o644)).WellFormed) ∧
    ((tree 0o044).resolve "t" = .ok (.dir (entries 0o044)) ∧ (Tree.dir (entries 0o044)).WellFormed ∧
      ShowSame {} {} (entries 0o644) (entries 0o044) ∧
      ∃ e, (ofDir (tree 0o044) (plain "t") {} Gzip.stored).result = .error e) ∧
    ((tree 0o644).resolve Far.root = .ok (.dir (entries 0o644)) ∧
      ∃ e, (ofDir (tree 0o644) (plain Far.root) {} Gzip.stored).result = .error e) ∧
    ((tree 0o644).resolve "l" = .ok (.dir (entries 0o644)) ∧
      ∃ e, (ofDir (tree 0o644) (plain "l") {} Gzip.stored).result = .error e) :=
  ⟨result_t Gzip.stored, ⟨resolve_t _, wellFormed _⟩,
    ⟨resolve_t _, wellFormed _, showSame (by decide) (.refl _), result_unreadable⟩,
    ⟨resolve_dots (by decide) _, result_far⟩, ⟨resolve_l _, result_l⟩⟩

end Small

end Layer

end OciCompose
