import OciCompose.Proofs.Tree

/-
  What a walk finds.
  `mem_sourcesIn`, `nodup_sourcesIn`: what it meets below a directory are the leaves of the tree, each
  with its own path. `walk_cases`: it fails if something that it looks at is too far from the root, and
  else gives what the ignore rules leave. `walk_at`: that is in strictly ascending order, behind a root
  that is a symlink. Roots with dots in front (`dotted`) lead to the same, as long as they are short.
-/

namespace OciCompose.Tree

variable {top : Tree} {root : String} {ignore : IgnoreRules} {children : List (String × Tree)}

/-! ## Below the root -/

theorem sourcesIn_eq_places (h : (dir children).WellFormed) :
    sourcesIn "" children =
      (places (dir children)).filterMap fun x => x.2.source? (placePath x.1) :=
  sources_eq h isPlace_nil

/-- The leaves of a directory are met. -/
theorem mem_sourcesIn (h : (dir children).WellFormed) {f : SourceFile} :
    f ∈ sourcesIn "" children ↔
      ∃ place leaf, child? place (dir children) = some leaf ∧ leaf.source? (placePath place) = some f := by
  rw [sourcesIn_eq_places h, List.mem_filterMap]
  constructor
  · rintro ⟨⟨place, leaf⟩, hmem, hf⟩
    exact ⟨place, leaf, (mem_places h).1 hmem, hf⟩
  · rintro ⟨place, leaf, hleaf, hf⟩
    exact ⟨(place, leaf), (mem_places h).2 hleaf, hf⟩

theorem relative_source? {path : String} {t : Tree} {f : SourceFile} (h : t.source? path = some f) :
    f.relative = path := by
  cases t <;> cases h <;> rfl

/-- No two of them have one path. -/
theorem nodup_sourcesIn (h : (dir children).WellFormed) :
    (sourcesIn "" children).Pairwise fun f g => f.relative ≠ g.relative := by
  rw [sourcesIn_eq_places h, List.pairwise_filterMap]
  refine (List.pairwise_map.1 (nodup_places h)).imp_of_mem fun {x y} hx hy hne f hf g hg heq => ?_
  rw [relative_source? hf, relative_source? hg] at heq
  exact hne (placePath_inj (isPlace_of_child? h ((mem_places h).1 hx))
    (isPlace_of_child? h ((mem_places h).1 hy)) heq)

/-- Nothing in a directory has the path of the directory itself. -/
theorem relative_ne_empty (h : (dir children).WellFormed) {f : SourceFile}
    (hf : f ∈ sourcesIn "" children) : f.relative ≠ "" := by
  obtain ⟨place, leaf, hleaf, hsource⟩ := (mem_sourcesIn h).1 hf
  rw [relative_source? hsource]
  refine placePath_ne_empty ?_ (isPlace_of_child? h hleaf)
  rintro rfl
  cases hleaf
  cases hsource

theorem mem_directoriesIn (h : (dir children).WellFormed) {p : String} :
    p = "" ∨ p ∈ directoriesIn "" children ↔
      ∃ place inner, child? place (dir children) = some (dir inner) ∧ placePath place = p := by
  have hall := directories_eq h isPlace_nil
  have hroot : directories (placePath []) (dir children) = "" :: directoriesIn "" children := rfl
  rw [← List.mem_cons, ← hroot, hall, List.mem_map]
  constructor
  · rintro ⟨⟨place, u⟩, hmem, rfl⟩
    obtain ⟨hplace, hdir⟩ := List.mem_filter.1 hmem
    cases u with
    | dir inner => exact ⟨place, inner, (mem_places h).1 hplace, rfl⟩
    | file content mode => cases hdir
    | link target => cases hdir
  · rintro ⟨place, inner, hplace, rfl⟩
    exact ⟨(place, dir inner), List.mem_filter.2 ⟨(mem_places h).2 hplace, rfl⟩, rfl⟩

/-! ## With the root itself -/

/-- The target of a root that is a symlink. -/
def rootLink? (top : Tree) (root : String) : Option String :=
  match top.at? root with
  | some (.link target) => some target
  | _ => none

/-- What is met of a root that is a symlink. -/
def rootSource (top : Tree) (root : String) : List SourceFile :=
  (rootLink? top root).toList.map fun target => ⟨"", .symlink target, symlinkMode⟩

theorem rootLink?_eq_some {target : String} :
    rootLink? top root = some target ↔ top.at? root = some (.link target) := by
  unfold rootLink?
  split
  · next t h => rw [h, Option.some.injEq, Option.some.injEq, link.injEq]
  · next h => exact iff_of_false nofun (h target)

/-- A root that is a symlink is met, with an empty path. -/
theorem rootSource_of_link {target : String} (h : top.at? root = some (.link target)) :
    rootSource top root = [⟨"", .symlink target, symlinkMode⟩] := by
  rw [rootSource, rootLink?_eq_some.2 h]
  rfl

/-- Any other root is not. -/
theorem rootSource_of_real (h : ∀ target, top.at? root ≠ some (.link target)) :
    rootSource top root = [] := by
  have hnone : rootLink? top root = none :=
    Option.eq_none_iff_forall_ne_some.2 fun target hlink => h target (rootLink?_eq_some.1 hlink)
  rw [rootSource, hnone]
  rfl

theorem allSources_eq (top : Tree) (root : String) (children : List (String × Tree)) :
    top.allSources root children = rootSource top root ++ sourcesIn "" children := by
  unfold allSources rootSource rootLink?
  dsimp only
  congr 1
  split <;> simp_all

/-! ## Walks -/

/-- What the ignore rules leave. -/
def retained (top : Tree) (root : String) (ignore : IgnoreRules) (children : List (String × Tree)) :
    List SourceFile :=
  (top.allSources root children).filter fun f => !ignore.ignores f.relative

/-- Something that is looked at is too far from the root: a directory, or something that is not
    ignored. -/
def MeetsFar (root : String) (ignore : IgnoreRules) (children : List (String × Tree)) : Prop :=
  ∃ place t, child? place (dir children) = some t ∧
    (t.isDir = true ∨ ignore.ignores (placePath place) = false) ∧ isFar root (placePath place) = true

theorem lt_pathLimit_of_resolve {t : Tree} (hroot : top.resolve root = .ok t) :
    root.utf8ByteSize < pathLimit := by
  refine Nat.lt_of_not_le fun hlong => ?_
  obtain ⟨fault, hfault⟩ : ∃ fault, pathFault? root = some fault := by
    unfold pathFault?
    split
    · exact ⟨_, rfl⟩
    split
    · exact ⟨_, rfl⟩
    · exact ⟨_, rfl⟩
  unfold resolve at hroot
  rw [hfault] at hroot
  cases hroot

theorem isFar_empty {t : Tree} (hroot : top.resolve root = .ok t) : isFar root "" = false := by
  unfold isFar pathBelow
  rw [decide_eq_false_iff_not, if_pos (by rfl)]
  exact Nat.not_le_of_lt (lt_pathLimit_of_resolve hroot)

/-- What a walk looks at and finds too far is below the root. -/
theorem meetsFar_iff (hwf : (dir children).WellFormed) {t : Tree} (hroot : top.resolve root = .ok t) :
    MeetsFar root ignore children ↔
      ∃ p, (p ∈ directoriesIn "" children ∨
        ∃ f ∈ top.retained root ignore children, f.relative = p) ∧ isFar root p = true := by
  have hempty := isFar_empty hroot
  constructor
  · rintro ⟨place, u, hu, hlook, hfar⟩
    refine ⟨placePath place, ?_, hfar⟩
    cases hsource : u.source? (placePath place) with
    | none =>
      obtain ⟨inner, rfl⟩ : ∃ inner, u = dir inner := by
        cases u with
        | dir inner => exact ⟨inner, rfl⟩
        | file content mode => cases hsource
        | link target => cases hsource
      rcases (mem_directoriesIn hwf).2 ⟨place, inner, hu, rfl⟩ with hnil | hmem
      · rw [hnil, hempty] at hfar
        cases hfar
      · exact .inl hmem
    | some f =>
      have hrelative := relative_source? hsource
      have hignored : ignore.ignores (placePath place) = false := by
        rcases hlook with hdir | hlook
        · cases u with
          | dir inner => cases hsource
          | file content mode => cases hdir
          | link target => cases hdir
        · exact hlook
      refine .inr ⟨f, List.mem_filter.2 ⟨?_, ?_⟩, hrelative⟩
      · rw [allSources_eq]
        exact List.mem_append_right _ ((mem_sourcesIn hwf).2 ⟨place, u, hu, hsource⟩)
      · rw [hrelative, hignored]
        rfl
  · rintro ⟨p, hmem | ⟨f, hf, rfl⟩, hfar⟩
    · obtain ⟨place, inner, hplace, rfl⟩ := (mem_directoriesIn hwf).1 (.inr hmem)
      exact ⟨place, _, hplace, .inl rfl, hfar⟩
    · obtain ⟨hall, hignored⟩ := List.mem_filter.1 hf
      rw [allSources_eq] at hall
      rcases List.mem_append.1 hall with hself | hbelow
      · obtain ⟨target, -, rfl⟩ := List.mem_map.1 hself
        rw [hempty] at hfar
        cases hfar
      · obtain ⟨place, leaf, hleaf, hsource⟩ := (mem_sourcesIn hwf).1 hbelow
        rw [relative_source? hsource] at hignored hfar
        exact ⟨place, leaf, hleaf, .inr (by simpa using hignored), hfar⟩

/-- So nothing is too far if no path in the directory is. -/
theorem not_meetsFar_of_near (hwf : (dir children).WellFormed) {t : Tree}
    (hroot : top.resolve root = .ok t)
    (h : ∀ p ∈ directoriesIn "" children ++ (sourcesIn "" children).map SourceFile.relative,
      isFar root p = false) :
    ¬ MeetsFar root ignore children := by
  rintro ⟨place, u, hu, -, hfar⟩
  suffices hnear : isFar root (placePath place) = false by
    rw [hnear] at hfar
    cases hfar
  cases hsource : u.source? (placePath place) with
  | some f =>
    refine h _ (List.mem_append_right _ (List.mem_map.2 ⟨f, ?_, relative_source? hsource⟩))
    exact (mem_sourcesIn hwf).2 ⟨place, u, hu, hsource⟩
  | none =>
    cases u with
    | file content mode => cases hsource
    | link target => cases hsource
    | dir inner =>
      rcases (mem_directoriesIn hwf).2 ⟨place, inner, hu, rfl⟩ with hnil | hmem
      · rw [hnil]
        exact isFar_empty hroot
      · exact h _ (List.mem_append_left _ hmem)

theorem firstMet?_eq_none {paths : List String} : firstMet? paths = none ↔ paths = [] := by
  unfold firstMet?
  dsimp only
  rw [List.head?_eq_none_iff]
  constructor
  · intro h
    exact List.Perm.eq_nil (h ▸ (List.mergeSort_perm paths _).symm)
  · rintro rfl
    exact List.mergeSort_nil

theorem mem_of_firstMet? {paths : List String} {p : String} (h : firstMet? paths = some p) :
    p ∈ paths := List.mem_mergeSort.1 (List.mem_of_head? h)

/-- A walk from a directory fails for something too far, or gives what the rules leave. -/
theorem walk_cases (hwf : (dir children).WellFormed) (hroot : top.resolve root = .ok (dir children))
    (ignore : IgnoreRules) :
    (MeetsFar root ignore children ∧ ∃ p, top.walk root ignore = .error (.walk p .nameTooLong)) ∨
    (¬ MeetsFar root ignore children ∧
      top.walk root ignore = .ok ((top.retained root ignore children).mergeSort fun a b =>
        a.relative ≤ b.relative)) := by
  rw [meetsFar_iff hwf hroot]
  unfold walk
  rw [hroot]
  dsimp only
  rw [← retained]
  cases hfirst : firstMet? ((directoriesIn "" children ++
      (top.retained root ignore children).map SourceFile.relative).filter (isFar root)) with
  | some p =>
    obtain ⟨hmem, hfar⟩ := List.mem_filter.1 (mem_of_firstMet? hfirst)
    refine .inl ⟨⟨p, (List.mem_append.1 hmem).imp_right fun hp => ?_, hfar⟩, _, rfl⟩
    exact List.mem_map.1 hp
  | none =>
    refine .inr ⟨?_, rfl⟩
    rw [firstMet?_eq_none, List.filter_eq_nil_iff] at hfirst
    rintro ⟨p, hp, hfar⟩
    refine hfirst p (List.mem_append.2 (hp.imp_right ?_)) hfar
    rintro ⟨f, hf, rfl⟩
    exact List.mem_map_of_mem hf

/-- Files with distinct paths are strictly ascending when they are sorted. -/
theorem ascending_mergeSort {files : List SourceFile}
    (h : files.Pairwise fun f g => f.relative ≠ g.relative) :
    (files.mergeSort fun a b => a.relative ≤ b.relative).Pairwise fun f g =>
      f.relative < g.relative := by
  have hdistinct := h.perm (List.mergeSort_perm files fun a b => a.relative ≤ b.relative).symm
    fun hne => Ne.symm hne
  have hsorted : (files.mergeSort fun a b => a.relative ≤ b.relative).Pairwise fun a b =>
      decide (a.relative ≤ b.relative) = true := by
    refine List.pairwise_mergeSort (fun a b c hab hbc => ?_) (fun a b => ?_) files
    · rw [decide_eq_true_eq] at hab hbc ⊢
      exact String.le_trans hab hbc
    · rw [Bool.or_eq_true, decide_eq_true_eq, decide_eq_true_eq]
      exact String.le_total a.relative b.relative
  refine (hsorted.and hdistinct).imp fun {a b} h => ?_
  obtain ⟨hle, hne⟩ := h
  rw [decide_eq_true_eq] at hle
  exact Classical.byContradiction fun hlt => hne (String.le_antisymm hle (String.not_lt.1 hlt))

/-- There is one ascending order of some files. -/
theorem eq_of_ascending {files files' : List SourceFile} (hperm : files.Perm files')
    (h : files.Pairwise fun f g => f.relative < g.relative)
    (h' : files'.Pairwise fun f g => f.relative < g.relative) : files = files' :=
  hperm.eq_of_pairwise
    (fun _ _ _ _ hfg hgf => absurd (String.lt_trans hfg hgf) (String.lt_irrefl _)) h h'

/-- What the rules leave below the root, in order. -/
def keptBelow (ignore : IgnoreRules) (children : List (String × Tree)) : List SourceFile :=
  ((sourcesIn "" children).filter fun f => !ignore.ignores f.relative).mergeSort fun a b =>
    a.relative ≤ b.relative

theorem ascending_keptBelow (hwf : (dir children).WellFormed) :
    (keptBelow ignore children).Pairwise fun f g => f.relative < g.relative :=
  ascending_mergeSort ((nodup_sourcesIn hwf).filter _)

theorem mem_keptBelow {f : SourceFile} :
    f ∈ keptBelow ignore children ↔ f ∈ sourcesIn "" children ∧ ignore.ignores f.relative = false := by
  unfold keptBelow
  rw [List.mem_mergeSort, List.mem_filter, Bool.not_eq_true']

theorem empty_lt {s : String} (h : s ≠ "") : "" < s := by
  rw [String.lt_iff]
  cases hs : s.toList with
  | nil => exact absurd (String.toList_eq_nil_iff.1 hs) h
  | cons c cs => exact List.nil_lt_cons _ _

theorem retained_eq (top : Tree) (root : String) (ignore : IgnoreRules)
    (children : List (String × Tree)) :
    top.retained root ignore children = rootSource top root ++
      (sourcesIn "" children).filter fun f => !ignore.ignores f.relative := by
  rw [retained, allSources_eq, List.filter_append]
  congr 1
  refine List.filter_eq_self.2 fun f hf => ?_
  -- the root itself is never ignored
  obtain ⟨target, -, rfl⟩ := List.mem_map.1 hf
  rfl

/-- Behind a root that is a symlink, the paths still ascend. -/
theorem ascending_found (hwf : (dir children).WellFormed) (top : Tree) (root : String) :
    (rootSource top root ++ keptBelow ignore children).Pairwise
      fun f g => f.relative < g.relative := by
  refine List.pairwise_append.2 ⟨?_, ascending_keptBelow hwf, fun f hf g hg => ?_⟩
  · unfold rootSource
    cases rootLink? top root <;> simp
  · obtain ⟨target, -, rfl⟩ := List.mem_map.1 hf
    exact empty_lt (relative_ne_empty hwf (mem_keptBelow.1 hg).1)

/-- What a walk finds is in ascending order. A root that is a symlink comes first. -/
theorem files_of_walk (hwf : (dir children).WellFormed) (hroot : top.resolve root = .ok (dir children))
    {files : List SourceFile} (h : top.walk root ignore = .ok files) :
    files = rootSource top root ++ keptBelow ignore children := by
  obtain ⟨-, p, hwalk⟩ | ⟨-, hwalk⟩ := walk_cases hwf hroot ignore
  · rw [hwalk] at h
    cases h
  rw [hwalk] at h
  obtain rfl := Except.ok.inj h
  have hparts : (rootSource top root ++ keptBelow ignore children).Pairwise
      fun f g => f.relative < g.relative := ascending_found hwf top root
  have hperm : (top.retained root ignore children).Perm
      (rootSource top root ++ keptBelow ignore children) := by
    rw [retained_eq]
    exact (List.mergeSort_perm _ _).symm.append_left _
  have hdistinct : (top.retained root ignore children).Pairwise fun f g => f.relative ≠ g.relative := by
    refine List.Pairwise.perm (hparts.imp fun {f g} hlt heq => ?_) hperm.symm Ne.symm
    rw [heq] at hlt
    exact String.lt_irrefl _ hlt
  exact eq_of_ascending ((List.mergeSort_perm _ _).trans hperm) (ascending_mergeSort hdistinct) hparts

/-- A walk fails if something is too far from the root, and else has the root in front of what is left
    below it. -/
theorem walk_at (hwf : (dir children).WellFormed) (hroot : top.resolve root = .ok (dir children))
    (ignore : IgnoreRules) :
    (MeetsFar root ignore children ∧
      ∃ path, top.walk root ignore = .error (.walk path .nameTooLong)) ∨
    (¬ MeetsFar root ignore children ∧
      top.walk root ignore = .ok (rootSource top root ++ keptBelow ignore children)) := by
  refine (walk_cases hwf hroot ignore).imp_right ?_
  rintro ⟨hnear, hwalk⟩
  rw [files_of_walk hwf hroot hwalk] at hwalk
  exact ⟨hnear, hwalk⟩

/-! ## Roots with dots in front -/

/-- A name with `./` before it, a number of times. -/
def dotted : Nat → String → String
  | 0, name => name
  | n + 1, name => "./" ++ dotted n name

theorem utf8ByteSize_dotted (n : Nat) (name : String) :
    (dotted n name).utf8ByteSize = 2 * n + name.utf8ByteSize := by
  induction n with
  | zero => exact (Nat.zero_add _).symm
  | succ n ih =>
    have hdots : ("./" : String).utf8ByteSize = 2 := by decide
    rw [dotted, String.utf8ByteSize_append, ih, hdots]
    omega

theorem toList_dotted (n : Nat) (name : String) :
    (dotted (n + 1) name).toList = ['.'] ++ '/' :: (dotted n name).toList := String.toList_append

theorem steps_dotted (n : Nat) {name : String} (h : Path.IsName name.toList) :
    steps (dotted n name) = List.replicate n .stay ++ [.child name] := by
  induction n with
  | zero =>
    rw [dotted, steps, List.splitOn_eq_singleton h.slash_not_mem, List.map_singleton,
      if_neg h.ne_nil, if_neg h.ne_current, if_neg h.ne_parent, String.ofList_toList]
    rfl
  | succ n ih =>
    rw [steps, toList_dotted, List.splitOn_append_cons_self_of_not_mem (by decide), List.map_cons,
      ← steps, ih]
    rfl

theorem isAbsolute_dotted (n : Nat) {name : String} (h : Path.IsName name.toList) :
    Path.isAbsolute (dotted n name) = false := by
  unfold Path.isAbsolute
  cases n with
  | zero =>
    have hhead : name.toList.head? ≠ some '/' := fun heq =>
      h.slash_not_mem (List.mem_of_head? heq)
    simpa [dotted] using hhead
  | succ n =>
    rw [toList_dotted]
    rfl

theorem pathFault?_dotted (n : Nat) {name : String} (h : Path.IsName name.toList)
    (hlength : 2 * n + name.utf8ByteSize < pathLimit) : pathFault? (dotted n name) = none := by
  have hnul : (dotted n name).toList.contains '\x00' = false := by
    rw [List.contains_eq_mem, decide_eq_false_iff_not]
    clear hlength
    induction n with
    | zero => exact h.nul_not_mem
    | succ n ih => simp [toList_dotted, ih]
  have hempty : (dotted n name).isEmpty = false := by
    rw [String.isEmpty_eq_false_iff]
    intro heq
    have hlist := congrArg String.toList heq
    cases n with
    | zero => exact h.ne_nil hlist
    | succ n =>
      rw [toList_dotted] at hlist
      cases hlist
  unfold pathFault?
  rw [hnul, hempty, utf8ByteSize_dotted, if_neg Bool.false_ne_true, if_neg Bool.false_ne_true,
    if_neg (Nat.not_le_of_lt hlength)]

theorem follow_stay (links : Nat) (children : List (String × Tree)) (outer : List Tree) (n : Nat)
    (rest : List Step) :
    follow links (dir children) outer (List.replicate n .stay ++ rest) =
      follow links (dir children) outer rest := by
  induction n with
  | zero => rfl
  | succ n ih =>
    rw [List.replicate_succ, List.cons_append, follow]
    exact ih

theorem follow_dir {links : Nat} {outer : List Tree} {name : String} {inner : List (String × Tree)}
    (hname : name.utf8ByteSize ≤ maxName) (h : children.lookup name = some (dir inner)) :
    follow links (dir children) outer [.child name] = .ok (dir inner) := by
  rw [follow, if_neg (Nat.not_lt.2 hname), h]
  simp [follow]

/-- A symlink leads on in the directory that holds it. -/
theorem follow_link {links : Nat} {outer : List Tree} {name target : String} {rest : List Step}
    (hname : name.utf8ByteSize ≤ maxName) (h : children.lookup name = some (link target))
    (hne : target.isEmpty = false) (hrelative : Path.isAbsolute target = false) :
    follow (links + 1) (dir children) outer (.child name :: rest) =
      follow links (dir children) outer (steps target ++ rest) := by
  rw [follow, if_neg (Nat.not_lt.2 hname), h]
  dsimp only
  rw [hne, hrelative, if_neg Bool.false_ne_true, if_neg Bool.false_ne_true]

/-- Dots in front change nothing about what a path leads to, if it does not get too long. -/
theorem resolve_dotted {n : Nat} {name : String} {inner : List (String × Tree)}
    (h : Path.IsName name.toList) (hname : name.utf8ByteSize ≤ maxName)
    (hlength : 2 * n + name.utf8ByteSize < pathLimit)
    (hlookup : children.lookup name = some (dir inner)) :
    resolve (dir children) (dotted n name) = .ok (dir inner) := by
  rw [resolve, pathFault?_dotted n h hlength, isAbsolute_dotted n h, steps_dotted n h,
    if_neg Bool.false_ne_true, follow_stay, follow_dir hname hlookup]

theorem at?_dotted (n : Nat) {name : String} (h : Path.IsName name.toList) :
    at? (dir children) (dotted n name) = children.lookup name := by
  unfold at?
  rw [steps_dotted n h, List.reverse_append, List.reverse_replicate, List.reverse_singleton,
    List.singleton_append]
  dsimp only
  have hstay := follow_stay maxLinks children [] n []
  rw [List.append_nil] at hstay
  rw [List.reverse_replicate, hstay, follow]

theorem isFar_of_le {relative : String} (hne : relative ≠ "")
    (h : pathLimit ≤ root.utf8ByteSize + relative.utf8ByteSize) : isFar root relative = true := by
  have hempty : relative.isEmpty = false := String.isEmpty_eq_false_iff.2 hne
  unfold isFar pathBelow
  rw [decide_eq_true_eq, hempty, if_neg Bool.false_ne_true]
  split
  · rw [String.utf8ByteSize_append]
    exact h
  · rw [String.utf8ByteSize_append, String.utf8ByteSize_append]
    omega

end OciCompose.Tree
