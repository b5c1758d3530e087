import OciCompose.Gzip
import OciCompose.Proofs.Layer.Archive
import OciCompose.Proofs.Layer.Intake
import OciCompose.Proofs.Walk

/-
  The layer of a directory.
  `Retained` says what the ignore rules leave of a tree, `Holds` that a staging is made of exactly that,
  and `LeavesOut` which symlinks are left out. `ofDir_holds`: a layer holds the retained tree, and a
  directory of which nothing can be held has none.
-/

namespace OciCompose

/-- What a file or symlink of a tree is in a layer; nothing for a symlink that leads out of it. -/
def Tree.staged? : Tree → Option StagedEntry
  | .file content mode => some (.file content (some (fileType ||| mode)))
  | .link target => if Path.isAbsolute target then none else some (.symlink target)
  | .dir _ => none

namespace Layer

open OciCompose.Tree

variable {top : Tree} {d : LocalDir} {children : List (String × Tree)} {files : List SourceFile}
  {gzip : Bytes → Bytes}

/-- A file or symlink that is not ignored. -/
structure Retained (ignore : IgnoreRules) (children : List (String × Tree)) (place : List String)
    (leaf : Tree) : Prop where
  found : child? place (.dir children) = some leaf
  notDir : leaf.isDir = false
  kept : ignore.ignores (placePath place) = false

/-- The key in the image of what is at a place in a directory. -/
def imageKey (d : LocalDir) (place : List String) : String :=
  Staging.key (d.containerPath.map (placePath place))

/-- A staging has an entry for each file and each relative symlink that is not ignored, each under a key
    of its own, and nothing else. -/
structure Holds (d : LocalDir) (children : List (String × Tree)) (s : Staging) : Prop where
  entries : ∀ k e, s.entries.get? k = some e ↔
    ∃ place leaf, Retained d.ignore children place leaf ∧ leaf.staged? = some e ∧ k = imageKey d place
  distinct : ∀ a b s t, Retained d.ignore children a s → Retained d.ignore children b t →
    imageKey d a = imageKey d b → a = b
  total : s.Sized

/-- Paths and targets of the absolute symlinks that are not ignored, each once. -/
structure LeavesOut (d : LocalDir) (children : List (String × Tree)) (links : List (String × String)) :
    Prop where
  nodup : links.Nodup
  mem : ∀ path target, (path, target) ∈ links ↔
    Path.isAbsolute target = true ∧
      ∃ place, Retained d.ignore children place (.link target) ∧ placePath place = path

/-! ## Leaves and the files of a walk -/

theorem staged?_source? {path : String} {leaf : Tree} {f : SourceFile}
    (h : leaf.source? path = some f) : f.staged? = leaf.staged? := by
  cases leaf <;> cases h <;> rfl

theorem exists_source? {leaf : Tree} (h : leaf.isDir = false) (path : String) :
    ∃ f, leaf.source? path = some f := by
  cases leaf with
  | dir children => cases h
  | file content mode => exact ⟨_, rfl⟩
  | link target => exact ⟨_, rfl⟩

theorem Retained.isPlace {ignore : IgnoreRules} {place : List String} {leaf : Tree}
    (hwf : (dir children).WellFormed) (h : Retained ignore children place leaf) : IsPlace place :=
  isPlace_of_child? hwf h.found

theorem imageKey_inj (hwf : (dir children).WellFormed) {a b : List String} {s t : Tree}
    (ha : Retained d.ignore children a s) (hb : Retained d.ignore children b t)
    (h : imageKey d a = imageKey d b) : a = b :=
  Staging.key_map_inj (ha.isPlace hwf) (hb.isPlace hwf) d.containerPath h

/-- A list of what is retained, each once. -/
structure Lists (ignore : IgnoreRules) (children : List (String × Tree)) (files : List SourceFile) :
    Prop where
  distinct : files.Pairwise fun f g => f.relative ≠ g.relative
  mem : ∀ f, f ∈ files ↔
    ∃ place leaf, Retained ignore children place leaf ∧ leaf.source? (placePath place) = some f

theorem lists_keptBelow (hwf : (dir children).WellFormed) (ignore : IgnoreRules) :
    Lists ignore children (keptBelow ignore children) := by
  refine ⟨(ascending_keptBelow hwf).imp fun {f g} hlt (heq : f.relative = g.relative) => ?_, fun f => ?_⟩
  · rw [heq] at hlt
    exact String.lt_irrefl _ hlt
  rw [mem_keptBelow, mem_sourcesIn hwf]
  constructor
  · rintro ⟨⟨place, leaf, hfound, hsource⟩, hkept⟩
    rw [relative_source? hsource] at hkept
    refine ⟨place, leaf, ⟨hfound, ?_, hkept⟩, hsource⟩
    cases leaf with
    | dir inner => cases hsource
    | file content mode => rfl
    | link target => rfl
  · rintro ⟨place, leaf, h, hsource⟩
    exact ⟨⟨place, leaf, h.found, hsource⟩, (congrArg _ (relative_source? hsource)).trans h.kept⟩

theorem keptBelow_of_walk {root : String} {ignore : IgnoreRules}
    (hroot : top.resolve root = .ok (.dir children))
    (hreal : ∀ target, top.at? root ≠ some (.link target)) (hwf : (dir children).WellFormed)
    (hwalk : top.walk root ignore = .ok files) : files = keptBelow ignore children := by
  rw [files_of_walk hwf hroot hwalk, rootSource_of_real hreal, List.nil_append]

/-- A walk from a directory that is not a symlink itself gives such a list. -/
theorem lists_of_walk (hroot : top.resolve d.path = .ok (.dir children))
    (hreal : ∀ target, top.at? d.path ≠ some (.link target)) (hwf : (dir children).WellFormed)
    (hwalk : top.walk d.path d.ignore = .ok files) : Lists d.ignore children files := by
  rw [keptBelow_of_walk hroot hreal hwf hwalk]
  exact lists_keptBelow hwf d.ignore

/-! ## What is staged and what is left out -/

theorem insertion?_eq_some {f : SourceFile} {x : String × StagedEntry} :
    insertion? d f = some x ↔ f.staged? = some x.2 ∧ d.containerPath.map f.relative = x.1 := by
  unfold insertion?
  rw [Option.map_eq_some_iff]
  constructor
  · rintro ⟨e, he, rfl⟩
    exact ⟨he, rfl⟩
  · rintro ⟨he, hpath⟩
    exact ⟨x.2, he, Prod.ext hpath rfl⟩

theorem mem_insertions (h : Lists d.ignore children files) {k : String} {e : StagedEntry} :
    (k, e) ∈ (files.filterMap (insertion? d)).map Staging.keyed ↔
      ∃ place leaf, Retained d.ignore children place leaf ∧ leaf.staged? = some e ∧
        k = imageKey d place := by
  constructor
  · intro hmem
    obtain ⟨x, hx, heq⟩ := List.mem_map.1 hmem
    obtain ⟨f, hf, hins⟩ := List.mem_filterMap.1 hx
    obtain ⟨hstaged, hpath⟩ := insertion?_eq_some.1 hins
    obtain ⟨place, leaf, hretained, hsource⟩ := (h.mem f).1 hf
    rw [staged?_source? hsource] at hstaged
    rw [relative_source? hsource] at hpath
    cases heq
    exact ⟨place, leaf, hretained, hstaged, congrArg Staging.key hpath.symm⟩
  · rintro ⟨place, leaf, hretained, hstaged, rfl⟩
    obtain ⟨f, hsource⟩ := exists_source? hretained.notDir (placePath place)
    refine List.mem_map.2 ⟨(d.containerPath.map (placePath place), e), ?_, rfl⟩
    refine List.mem_filterMap.2 ⟨f, (h.mem f).2 ⟨place, leaf, hretained, hsource⟩, ?_⟩
    refine insertion?_eq_some.2 ⟨?_, ?_⟩
    · rw [staged?_source? hsource, hstaged]
    · rw [relative_source? hsource]

/-- Files that are at distinct places have distinct keys. -/
theorem nodup_insertions (hdistinct : files.Pairwise fun f g => f.relative ≠ g.relative)
    (hplaces : ∀ f ∈ files, ∃ place, IsPlace place ∧ f.relative = placePath place) :
    ((files.filterMap (insertion? d)).map fun x => Staging.key x.1).Nodup := by
  refine List.pairwise_map.2 (List.pairwise_filterMap.2 ?_)
  refine hdistinct.imp_of_mem fun {f g} hf hg hne x hx y hy heq => hne ?_
  obtain ⟨a, ha, hfa⟩ := hplaces f hf
  obtain ⟨b, hb, hgb⟩ := hplaces g hg
  rw [← (insertion?_eq_some.1 hx).2, ← (insertion?_eq_some.1 hy).2, hfa, hgb] at heq
  rw [hfa, hgb, Staging.key_map_inj ha hb d.containerPath heq]

theorem Lists.places (hwf : (dir children).WellFormed) (h : Lists d.ignore children files) :
    ∀ f ∈ files, ∃ place, IsPlace place ∧ f.relative = placePath place := by
  intro f hf
  obtain ⟨place, leaf, hretained, hsource⟩ := (h.mem f).1 hf
  exact ⟨place, hretained.isPlace hwf, relative_source? hsource⟩

theorem insertions_eq_nil (h : Lists d.ignore children files) :
    files.filterMap (insertion? d) = [] ↔
      ∀ place leaf, Retained d.ignore children place leaf → leaf.staged? = none := by
  rw [List.filterMap_eq_nil_iff]
  constructor
  · intro hnone place leaf hretained
    obtain ⟨f, hsource⟩ := exists_source? hretained.notDir (placePath place)
    have hf := hnone f ((h.mem f).2 ⟨place, leaf, hretained, hsource⟩)
    rw [insertion?, Option.map_eq_none_iff, staged?_source? hsource] at hf
    exact hf
  · intro hnone f hf
    obtain ⟨place, leaf, hretained, hsource⟩ := (h.mem f).1 hf
    rw [insertion?, staged?_source? hsource, hnone place leaf hretained]
    rfl

theorem outward?_eq_some {f : SourceFile} {path target : String} :
    f.outward? = some (path, target) ↔
      f.kind = .symlink target ∧ Path.isAbsolute target = true ∧ f.relative = path := by
  unfold SourceFile.outward?
  cases f.kind with
  | file content => simp
  | symlink t =>
    dsimp only
    split
    · next habsolute =>
      simp only [Option.some.injEq, Prod.mk.injEq, SourceKind.symlink.injEq]
      constructor
      · rintro ⟨hpath, rfl⟩
        exact ⟨rfl, habsolute, hpath⟩
      · rintro ⟨rfl, -, hpath⟩
        exact ⟨hpath, rfl⟩
    · next hrelative =>
      simp only [SourceKind.symlink.injEq]
      refine iff_of_false nofun ?_
      rintro ⟨rfl, habsolute, -⟩
      exact hrelative habsolute

theorem leavesOut_outward (h : Lists d.ignore children files) :
    LeavesOut d children (files.filterMap SourceFile.outward?) where
  nodup := by
    refine List.pairwise_filterMap.2 (h.distinct.imp fun {f g} hne x hx y hy heq => hne ?_)
    subst heq
    exact (outward?_eq_some.1 hx).2.2.trans (outward?_eq_some.1 hy).2.2.symm
  mem path target := by
    rw [List.mem_filterMap]
    constructor
    · rintro ⟨f, hf, hout⟩
      obtain ⟨hkind, habsolute, rfl⟩ := outward?_eq_some.1 hout
      obtain ⟨place, leaf, hretained, hsource⟩ := (h.mem f).1 hf
      refine ⟨habsolute, place, ?_, (relative_source? hsource).symm⟩
      cases leaf with
      | dir inner => cases hsource
      | file content mode =>
        cases hsource
        cases hkind
      | link t =>
        cases hsource
        cases hkind
        exact hretained
    · rintro ⟨habsolute, place, hretained, rfl⟩
      exact ⟨_, (h.mem _).2 ⟨place, _, hretained, rfl⟩, outward?_eq_some.2 ⟨rfl, habsolute, rfl⟩⟩

theorem holds_ofList (hwf : (dir children).WellFormed) (h : Lists d.ignore children files) :
    Holds d children (Staging.ofList (files.filterMap (insertion? d))) where
  entries k e := by
    rw [Staging.get?_ofList (nodup_insertions h.distinct (h.places hwf))]
    exact mem_insertions h
  distinct a b s t ha hb := imageKey_inj hwf ha hb
  total := Staging.sized_ofList _

/-! ## What becomes of a directory -/

/-- All that can come of a directory that is not a symlink itself. -/
inductive DirOutcome (d : LocalDir) (a : LayerAttributes) (gzip : Bytes → Bytes)
    (children : List (String × Tree)) : Outcome → Prop
  | tooFar (path : String) : DirOutcome d a gzip children ⟨.error (.walk path .nameTooLong), []⟩
  | overLimit (what : Limited) (actual limit : Nat) (events : List Event) :
    DirOutcome d a gzip children ⟨.error (.limitExceeded what actual limit), events⟩
  | unreadable (place : List String) (content : Bytes) (mode : UInt32) (events : List Event)
    (retained : Retained d.ignore children place (.file content mode)) :
    DirOutcome d a gzip children ⟨.error (.io .permissionDenied), events⟩
  | empty (links : List (String × String)) (leavesOut : LeavesOut d children links)
    (nothing : ∀ place leaf, Retained d.ignore children place leaf → leaf.staged? = none) :
    DirOutcome d a gzip children ⟨.error (.emptyLayer d.path), links.map skipped⟩
  | unwritten (s : Staging) (fault : IoFault) (events : List Event)
    (something : ∃ place leaf e, Retained d.ignore children place leaf ∧ leaf.staged? = some e)
    (write : s.writeTar a = .error (.io fault)) :
    DirOutcome d a gzip children ⟨.error (.io fault), events⟩
  | built (s : Staging) (tar : Bytes) (links : List (String × String)) (holds : Holds d children s)
    (leavesOut : LeavesOut d children links)
    (something : ∃ place leaf e, Retained d.ignore children place leaf ∧ leaf.staged? = some e)
    (write : s.writeTar a = .ok tar) :
    DirOutcome d a gzip children ⟨.ok (ofTar tar gzip), links.map skipped ++
      [.layerBuilt d.path s.size s.totalSize.toNat (ofTar tar gzip).digest.toText]⟩

theorem writeTar_cases (s : Staging) (a : LayerAttributes) :
    (∃ fault, s.writeTar a = .error (.io fault)) ∨ ∃ tar, s.writeTar a = .ok tar := by
  unfold Staging.writeTar
  cases Tar.write (s.entries.toList.map (Staging.member a)) with
  | error fault => exact .inl ⟨fault, rfl⟩
  | ok tar => exact .inr ⟨tar, rfl⟩

/-- A file that is listed is refused for a limit, or as it may not be read. -/
theorem outcome_of_refused (h : Lists d.ignore children files) {i : Intake} {f : SourceFile}
    (hf : f ∈ files) {e : Error} (hrefused : refusal? d i f = some e) (events : List Event) :
    DirOutcome d a gzip children ⟨.error e, events⟩ := by
  rcases Intake.refusal?_eq_some hrefused with ⟨-, hexceeds⟩ | ⟨rfl, hread⟩
  · cases hexceeds <;> exact .overLimit _ _ _ _
  obtain ⟨place, leaf, hretained, hsource⟩ := (h.mem f).1 hf
  cases leaf with
  | dir inner => cases hsource
  | link target =>
    cases hsource
    cases hread
  | file content mode => exact .unreadable place content mode _ hretained

/-- Listed files leave a staging empty if nothing that is retained would be staged. -/
theorem isEmpty_staging_iff (hwf : (dir children).WellFormed) (h : Lists d.ignore children files) :
    (Staging.ofList (files.filterMap (insertion? d))).isEmpty = true ↔
      ∀ place leaf, Retained d.ignore children place leaf → leaf.staged? = none := by
  rw [Staging.isEmpty_ofList (nodup_insertions (d := d) h.distinct (h.places hwf)),
    insertions_eq_nil h]

/-- Files that are listed and taken in become a layer, if there is something to stage and an archive
    can be formed of it. -/
theorem outcome_of_taken (hwf : (dir children).WellFormed) (h : Lists d.ignore children files)
    {i : Intake} (hstaging : i.staging = Staging.ofList (files.filterMap (insertion? d)))
    (hevents : i.events = (files.filterMap SourceFile.outward?).map skipped) :
    DirOutcome d a gzip children
      (if i.staging.isEmpty then ⟨.error (.emptyLayer d.path), i.events⟩
      else ⟨(ofStaging d.path i.staging a gzip).result,
        i.events ++ (ofStaging d.path i.staging a gzip).events⟩) := by
  have hempty := isEmpty_staging_iff hwf h
  rw [← hstaging] at hempty
  rw [hevents]
  by_cases hnothing : i.staging.isEmpty = true
  · rw [if_pos hnothing]
    exact .empty _ (leavesOut_outward h) (hempty.1 hnothing)
  rw [if_neg hnothing]
  have hsomething : ∃ place leaf e, Retained d.ignore children place leaf ∧
      leaf.staged? = some e := by
    refine Classical.byContradiction fun hnone => hnothing (hempty.2 fun place leaf hretained => ?_)
    exact Option.eq_none_iff_forall_ne_some.2 fun e he => hnone ⟨place, leaf, e, hretained, he⟩
  unfold ofStaging
  rcases writeTar_cases i.staging a with ⟨fault, hwrite⟩ | ⟨tar, hwrite⟩
  · rw [hwrite]
    exact .unwritten i.staging fault _ hsomething hwrite
  · rw [hwrite]
    exact .built i.staging tar _ (hstaging ▸ holds_ofList hwf h) (leavesOut_outward h) hsomething
      hwrite

theorem ofDir_outcome (hroot : top.resolve d.path = .ok (.dir children))
    (hreal : ∀ target, top.at? d.path ≠ some (.link target)) (hwf : (dir children).WellFormed)
    (a : LayerAttributes) (gzip : Bytes → Bytes) :
    DirOutcome d a gzip children (ofDir top d a gzip) := by
  unfold ofDir
  obtain ⟨-, p, hwalk⟩ | ⟨-, hwalk⟩ := walk_cases hwf hroot d.ignore
  · rw [hwalk]
    exact .tooFar p
  have hlists := lists_of_walk hroot hreal hwf hwalk
  rw [hwalk]
  dsimp only
  generalize (top.retained d.path d.ignore children).mergeSort _ = files at hlists
  rcases hadd : Intake.addAll d .empty files with ⟨_ | e, i⟩
  · have htaken := (Intake.addAll_ok hadd).1
    exact outcome_of_taken hwf hlists (htaken ▸ Intake.staging_foldl d .empty files)
      (htaken ▸ Intake.events_foldl d .empty files)
  · obtain ⟨before, f, after, rfl, rfl, hrefused⟩ := Intake.addAll_error hadd
    exact outcome_of_refused hlists (List.mem_append_right _ List.mem_cons_self) hrefused _

/-- A layer of a directory that is not a symlink itself holds exactly what is retained of the tree; an
    absolute symlink gives a warning instead. A directory that exceeds no limit and has nothing too far
    from it is refused as empty exactly if nothing that is retained can be held. -/
theorem ofDir_holds (hroot : top.resolve d.path = .ok (.dir children))
    (hreal : ∀ target, top.at? d.path ≠ some (.link target)) (hwf : (dir children).WellFormed)
    (a : LayerAttributes) (gzip : Bytes → Bytes) :
    (∀ layer, (ofDir top d a gzip).result = .ok layer →
      ∃ s tar links, s.writeTar a = .ok tar ∧ layer = ofTar tar gzip ∧ Holds d children s ∧
        LeavesOut d children links ∧
        (ofDir top d a gzip).events = links.map skipped ++
          [.layerBuilt d.path s.size s.totalSize.toNat layer.digest.toText]) ∧
    ((ofDir top d a gzip).result = .error (.emptyLayer d.path) →
      ∃ links, LeavesOut d children links ∧ (ofDir top d a gzip).events = links.map skipped) ∧
    ((∀ what actual limit, (ofDir top d a gzip).result ≠ .error (.limitExceeded what actual limit)) →
      (∀ path fault, (ofDir top d a gzip).result ≠ .error (.walk path fault)) →
      ((ofDir top d a gzip).result = .error (.emptyLayer d.path) ↔
        ∀ place leaf, Retained d.ignore children place leaf → leaf.staged? = none)) := by
  have houtcome := ofDir_outcome hroot hreal hwf a gzip
  generalize ofDir top d a gzip = o at houtcome
  have hsomething : (∃ place leaf e, Retained d.ignore children place leaf ∧ leaf.staged? = some e) →
      ¬ ∀ place leaf, Retained d.ignore children place leaf → leaf.staged? = none := by
    rintro ⟨place, leaf, e, hretained, he⟩ hnone
    rw [hnone place leaf hretained] at he
    cases he
  cases houtcome with
  | tooFar path => exact ⟨nofun, nofun, fun _ hnear => absurd rfl (hnear _ _)⟩
  | overLimit what actual limit events => exact ⟨nofun, nofun, fun hlimit => absurd rfl (hlimit _ _ _)⟩
  | unreadable place content mode events retained =>
    exact ⟨nofun, nofun, fun _ _ => iff_of_false nofun (hsomething ⟨place, _, _, retained, rfl⟩)⟩
  | empty links leavesOut nothing =>
    exact ⟨nofun, fun _ => ⟨links, leavesOut, rfl⟩, fun _ _ => iff_of_true rfl nothing⟩
  | unwritten s fault events something write =>
    exact ⟨nofun, nofun, fun _ _ => iff_of_false nofun (hsomething something)⟩
  | built s tar links holds leavesOut something write =>
    refine ⟨fun layer hlayer => ?_, nofun, fun _ _ => iff_of_false nofun (hsomething something)⟩
    obtain rfl := Except.ok.inj hlayer
    exact ⟨s, tar, links, write, rfl, holds, leavesOut, rfl⟩

/-! ## A small directory -/

theorem ignores_none (path : String) : IgnoreRules.none.ignores path = false := by
  unfold IgnoreRules.ignores
  dsimp only
  split <;> rfl

/-- A directory without rules, limits and place in the image. -/
def plain (root : String) : LocalDir where
  path := root
  containerPath := .asIs
  ignore := .none
  maxFiles := none
  maxSize := none

namespace Small

/-- A symlink that leads out, and a file with a mode. -/
def entries (mode : UInt32) : List (String × Tree) :=
  [("b", .link "/x"), ("a", .file [0x78] mode)]

/-- They are in `t`, where `l` leads. -/
def tree (mode : UInt32) : Tree := .dir [("t", .dir (entries mode)), ("l", .link "t")]

theorem wellFormed (mode : UInt32) : (Tree.dir (entries mode)).WellFormed := by
  refine .dir ?_ (by simp [entries]) ?_
  · exact List.forall_mem_cons.2 ⟨by decide,
      List.forall_mem_singleton.2 (by decide : Path.IsName "a".toList)⟩
  · exact List.forall_mem_cons.2 ⟨.link _, List.forall_mem_singleton.2 (.file _ _)⟩

theorem resolve_dots {n : Nat} (h : 2 * n + 1 < pathLimit) (mode : UInt32) :
    (tree mode).resolve (dotted n "t") = .ok (.dir (entries mode)) :=
  resolve_dotted (by decide) (by decide) h rfl

theorem at?_dots (n : Nat) (mode : UInt32) :
    (tree mode).at? (dotted n "t") = some (.dir (entries mode)) :=
  at?_dotted n (by decide)

/-- What is in the directory, in whatever order it is listed. -/
theorem child?_entries {mode : UInt32} {children : List (String × Tree)}
    (hperm : (entries mode).Perm children) {place : List String} {t : Tree}
    (h : child? place (.dir children) = some t) :
    place = [] ∧ t = .dir children ∨ place = ["b"] ∧ t = .link "/x" ∨
      place = ["a"] ∧ t = .file [0x78] mode := by
  cases place with
  | nil => exact .inl ⟨rfl, (Option.some.inj h).symm⟩
  | cons n rest =>
    rw [← child?_perm (wellFormed mode) hperm] at h
    have hmem := (mem_places (wellFormed mode)).2 h
    exact .inr (by simpa [entries, places, placesIn] using hmem)

theorem not_meetsFar {mode : UInt32} {children : List (String × Tree)}
    (hperm : (entries mode).Perm children) {root : String}
    (h : ∀ relative ∈ ["", "b", "a"], isFar root relative = false) :
    ¬ MeetsFar root .none children := by
  rintro ⟨place, t, ht, -, hfar⟩
  have hmem : placePath place ∈ ["", "b", "a"] := by
    rcases child?_entries hperm ht with ⟨rfl, -⟩ | ⟨rfl, -⟩ | ⟨rfl, -⟩ <;> decide
  rw [h _ hmem] at hfar
  cases hfar

theorem keptBelow_entries (mode : UInt32) :
    keptBelow .none (entries mode) =
      [⟨"a", .file [0x78], fileType ||| mode⟩, ⟨"b", .symlink "/x", symlinkMode⟩] := by
  have hperm : (keptBelow .none (entries mode)).Perm
      [⟨"a", .file [0x78], fileType ||| mode⟩, ⟨"b", .symlink "/x", symlinkMode⟩] := by
    refine (List.mergeSort_perm _ _).trans ?_
    rw [List.filter_eq_self.2 fun f _ => by rw [ignores_none]; rfl]
    exact List.Perm.swap _ _ _
  exact eq_of_ascending hperm (ascending_keptBelow (wellFormed mode))
    (List.pairwise_pair.2 (by decide : "a" < "b"))

/-- The files of a walk from a root that leads to the directory. -/
theorem walk_eq {root : String} {mode : UInt32}
    (hroot : (tree mode).resolve root = .ok (.dir (entries mode)))
    (hnear : ¬ MeetsFar root .none (entries mode)) :
    (tree mode).walk root .none = .ok (rootSource (tree mode) root ++
      [⟨"a", .file [0x78], fileType ||| mode⟩, ⟨"b", .symlink "/x", symlinkMode⟩]) := by
  obtain ⟨hfar, -⟩ | ⟨-, hwalk⟩ := walk_at (wellFormed mode) hroot .none
  · exact absurd hfar hnear
  · rw [hwalk, keptBelow_entries]

theorem resolve_t (mode : UInt32) : (tree mode).resolve "t" = .ok (.dir (entries mode)) :=
  resolve_dots (n := 0) (by decide) mode

theorem at?_t (mode : UInt32) : (tree mode).at? "t" = some (.dir (entries mode)) := at?_dots 0 mode

theorem walk_t (mode : UInt32) : (tree mode).walk "t" .none =
    .ok [⟨"a", .file [0x78], fileType ||| mode⟩, ⟨"b", .symlink "/x", symlinkMode⟩] := by
  have hreal : ∀ target, (tree mode).at? "t" ≠ some (.link target) := fun target h => by
    cases (at?_t mode).symm.trans h
  rw [walk_eq (resolve_t mode) (not_meetsFar (.refl _) (by decide)), rootSource_of_real hreal,
    List.nil_append]

/-- The entry of the file. -/
def staged : Staging := Staging.empty.insert "a" (.file [0x78] (some 0o100644))

theorem storable_staged : staged.Storable := by
  intro e he
  obtain rfl : e = ("/" ++ "a", .file [0x78] (some 0o100644)) := List.mem_singleton.1 he
  exact ⟨(by decide : 1 < 8 * 2 ^ 30), "a", rfl, ⟨[['a']], by decide, by decide, by decide⟩, by decide⟩

/-- There is a layer, if the file may be read. -/
theorem result_t (gzip : Bytes → Bytes) :
    ∃ layer, (ofDir (tree 0o644) (plain "t") {} gzip).result = .ok layer := by
  obtain ⟨tar, hwrite, -⟩ := Staging.exists_writeTar storable_staged {}
  refine ⟨ofTar tar gzip, ?_⟩
  rw [result_of_taken (tree 0o644) (plain "t") {} gzip (walk_t 0o644) rfl]
  show (ofStaging "t" staged {} gzip).result = .ok (ofTar tar gzip)
  rw [ofStaging, hwrite]

/-- It holds the file and warns of the symlink. -/
theorem ofDir_holds_small :
    ∃ (s : Staging) (tar : Bytes) (links : List (String × String)),
      (ofDir (tree 0o644) (plain "t") {} Gzip.stored).result = .ok (ofTar tar Gzip.stored) ∧
      s.writeTar {} = .ok tar ∧ s.entries.get? "/a" = some (.file [0x78] (some 0o100644)) ∧
      ("b", "/x") ∈ links ∧
      (ofDir (tree 0o644) (plain "t") {} Gzip.stored).events = links.map skipped ++
        [.layerBuilt "t" s.size s.totalSize.toNat (ofTar tar Gzip.stored).digest.toText] := by
  have hholds := ofDir_holds (d := plain "t") (resolve_t 0o644)
    (fun target h => by cases (at?_t 0o644).symm.trans h) (wellFormed 0o644) {} Gzip.stored
  obtain ⟨layer, hlayer⟩ := result_t Gzip.stored
  obtain ⟨s, tar, links, hwrite, rfl, hs, hlinks, hevents⟩ := hholds.1 layer hlayer
  refine ⟨s, tar, links, hlayer, hwrite, (hs.entries _ _).2 ?_, (hlinks.mem _ _).2 ?_, hevents⟩
  · exact ⟨["a"], _, ⟨rfl, rfl, ignores_none _⟩, rfl, rfl⟩
  · exact ⟨by decide, ["b"], ⟨rfl, rfl, ignores_none _⟩, by decide⟩

end Small

/-! ## A directory that is too far away -/

namespace Far

/-- An empty directory in `t`. -/
def entries : List (String × Tree) := [("a", .dir [])]

/-- The path of `t`, one byte below the limit. -/
def root : String := dotted 2047 "t"

theorem wellFormed : (Tree.dir entries).WellFormed :=
  .dir (by decide) (by simp [entries]) (List.forall_mem_singleton.2 (.dir nofun List.nodup_nil nofun))

/-- The files of the small directory are too far from it. -/
theorem meetsFar_small (mode : UInt32) : MeetsFar root .none (Small.entries mode) := by
  refine ⟨["a"], _, rfl, .inr (ignores_none _), isFar_of_le (by decide) ?_⟩
  rw [root, utf8ByteSize_dotted]
  decide

/-- Nothing is retained of it, and yet it is not refused as empty. -/
theorem not_emptyLayer :
    Tree.resolve (.dir [("t", .dir entries)]) root = .ok (.dir entries) ∧
    (∀ target, Tree.at? (.dir [("t", .dir entries)]) root ≠ some (.link target)) ∧
    (Tree.dir entries).WellFormed ∧
    (∀ place leaf, ¬ Retained .none entries place leaf) ∧
    ∃ path, (ofDir (.dir [("t", .dir entries)]) (plain root) {} Gzip.stored).result =
      .error (.walk path .nameTooLong) := by
  have hroot : Tree.resolve (.dir [("t", .dir entries)]) root = .ok (.dir entries) :=
    resolve_dotted (by decide) (by decide) (by decide) rfl
  refine ⟨hroot, fun target h => ?_, wellFormed, fun place leaf h => ?_, ?_⟩
  · rw [root, at?_dotted 2047 (by decide)] at h
    cases h
  · have hmem := (mem_places wellFormed).2 h.found
    have hdir := h.notDir
    simp only [entries, places, placesIn, List.map_cons, List.map_nil, List.cons_append,
      List.nil_append, List.mem_cons, Prod.mk.injEq, List.not_mem_nil, or_false] at hmem
    rcases hmem with ⟨-, rfl⟩ | ⟨-, rfl⟩ <;> cases hdir
  · have hfar : MeetsFar root .none entries := by
      refine ⟨["a"], .dir [], rfl, .inl rfl, isFar_of_le (by decide) ?_⟩
      rw [root, utf8ByteSize_dotted]
      decide
    obtain ⟨-, path, hwalk⟩ | ⟨hnear, -⟩ := walk_cases wellFormed hroot .none
    · exact ⟨path, result_of_error (.dir [("t", .dir entries)]) (plain root) {} Gzip.stored hwalk⟩
    · exact absurd hfar hnear

end Far

end Layer

end OciCompose
