import OciCompose.Walk
import OciCompose.Proofs.Path
import OciCompose.Proofs.SortedMap

/-
  Trees as places.
  `WellFormed` says that directories name their children properly and once. Then `places` lists all that
  is in a tree, each place once (`mem_places`, `nodup_places`), and the sources and directories that a
  walk meets are read off that list (`sources_eq`, `directories_eq`). No two places have one path.
-/

namespace OciCompose.Tree

/-! ## Paths of places -/

/-- The path of a place. -/
def placePath (place : List String) : String := "/".intercalate place

/-- A place of names that things in directories can have. -/
def IsPlace (place : List String) : Prop := ∀ n ∈ place, Path.IsName n.toList

theorem toList_placePath (place : List String) :
    (placePath place).toList = Path.join (place.map String.toList) :=
  String.toList_intercalate

theorem IsPlace.isName {place : List String} (h : IsPlace place) :
    ∀ n ∈ place.map String.toList, Path.IsName n := by
  intro n hn
  obtain ⟨s, hs, rfl⟩ := List.mem_map.1 hn
  exact h s hs

theorem IsPlace.append {place : List String} (h : IsPlace place) {n : String}
    (hn : Path.IsName n.toList) : IsPlace (place ++ [n]) := by
  intro m hm
  rcases List.mem_append.1 hm with hm | hm
  · exact h m hm
  · rwa [List.mem_singleton.1 hm]

theorem isPlace_nil : IsPlace [] := nofun

theorem isPlace_cons {n : String} {place : List String} (hn : Path.IsName n.toList)
    (h : IsPlace place) : IsPlace (n :: place) := List.forall_mem_cons.2 ⟨hn, h⟩

theorem placePath_ne_empty {place : List String} (hne : place ≠ []) (h : IsPlace place) :
    placePath place ≠ "" := by
  intro hempty
  have hlist := congrArg String.toList hempty
  rw [toList_placePath] at hlist
  obtain ⟨n, rest, rfl⟩ := List.exists_cons_of_ne_nil hne
  have hn := (h n List.mem_cons_self).ne_nil
  cases rest with
  | nil => exact hn ((Path.join_singleton _).symm.trans hlist)
  | cons m rest =>
    rw [List.map_cons, List.map_cons, Path.join_cons_cons] at hlist
    exact hn (List.append_eq_nil_iff.1 hlist).1

/-- No two places have one path. -/
theorem placePath_inj {a b : List String} (ha : IsPlace a) (hb : IsPlace b)
    (h : placePath a = placePath b) : a = b := by
  by_cases hane : a = []
  · subst hane
    exact (Classical.byContradiction fun hbne => placePath_ne_empty (Ne.symm hbne) hb h.symm)
  by_cases hbne : b = []
  · subst hbne
    exact absurd h (placePath_ne_empty hane ha)
  have hsplit := congrArg (fun s => s.toList.splitOn '/') h
  simp only [toList_placePath] at hsplit
  rw [Path.splitOn_join (by simpa using hane) fun s hs => (ha.isName s hs).slash_not_mem,
    Path.splitOn_join (by simpa using hbne) fun s hs => (hb.isName s hs).slash_not_mem] at hsplit
  exact (List.map_inj_right fun _ _ => String.toList_injective).1 hsplit

theorem childPath_placePath {place : List String} (h : IsPlace place) (n : String) :
    childPath (placePath place) n = placePath (place ++ [n]) := by
  unfold childPath
  by_cases hne : place = []
  · subst hne
    simp [placePath]
  · have hempty : (placePath place).isEmpty = false := by
      rw [String.isEmpty_eq_false_iff]
      exact placePath_ne_empty hne h
    rw [hempty, if_neg Bool.false_ne_true, placePath, placePath,
      String.intercalate_append_of_ne_nil hne (List.cons_ne_nil _ _), String.intercalate_singleton]

/-! ## Well-formed trees -/

/-- The children of each directory have proper names, each of them once. -/
inductive WellFormed : Tree → Prop
  | file (content : Bytes) (mode : UInt32) : WellFormed (.file content mode)
  | link (target : String) : WellFormed (.link target)
  | dir {children : List (String × Tree)} (names : ∀ c ∈ children, Path.IsName c.1.toList)
    (distinct : (children.map Prod.fst).Nodup) (inside : ∀ c ∈ children, WellFormed c.2) :
    WellFormed (.dir children)

mutual

/-- All that is in a tree, with its place. -/
def places : Tree → List (List String × Tree)
  | .file content mode => [([], .file content mode)]
  | .link target => [([], .link target)]
  | .dir children => ([], .dir children) :: placesIn children

def placesIn : List (String × Tree) → List (List String × Tree)
  | [] => []
  | (n, t) :: rest => (places t).map (fun x => (n :: x.1, x.2)) ++ placesIn rest

end

theorem placesIn_eq (children : List (String × Tree)) :
    placesIn children = children.flatMap fun c => (places c.2).map fun x => (c.1 :: x.1, x.2) := by
  induction children with
  | nil => simp [placesIn]
  | cons c rest ih => rw [placesIn, ih, List.flatMap_cons]

theorem mem_placesIn {children : List (String × Tree)} {place : List String} {u : Tree} :
    (place, u) ∈ placesIn children ↔
      ∃ n rest t, place = n :: rest ∧ (n, t) ∈ children ∧ (rest, u) ∈ places t := by
  rw [placesIn_eq, List.mem_flatMap]
  constructor
  · rintro ⟨⟨n, t⟩, hc, hmem⟩
    obtain ⟨⟨rest, v⟩, hv, heq⟩ := List.mem_map.1 hmem
    cases heq
    exact ⟨n, rest, t, rfl, hc, hv⟩
  · rintro ⟨n, rest, t, rfl, hc, hv⟩
    exact ⟨(n, t), hc, List.mem_map.2 ⟨(rest, u), hv, rfl⟩⟩

theorem child?_cons {children : List (String × Tree)} (distinct : (children.map Prod.fst).Nodup)
    {n : String} {rest : List String} {u : Tree} :
    child? (n :: rest) (.dir children) = some u ↔
      ∃ t, (n, t) ∈ children ∧ child? rest t = some u := by
  rw [child?, Option.bind_eq_some_iff]
  simp only [lookup_eq_some distinct]

theorem mem_places {t : Tree} (h : t.WellFormed) {place : List String} {u : Tree} :
    (place, u) ∈ places t ↔ child? place t = some u := by
  induction h generalizing place with
  | file content mode => cases place <;> simp [places, child?, eq_comm]
  | link target => cases place <;> simp [places, child?, eq_comm]
  | @dir children names distinct inside ih =>
    rw [places, List.mem_cons, mem_placesIn]
    cases place with
    | nil => simp [child?, eq_comm]
    | cons n rest =>
      rw [child?_cons distinct]
      constructor
      · rintro (heq | ⟨m, more, t, heq, hc, hu⟩)
        · cases heq
        · cases heq
          exact ⟨t, hc, (ih _ hc).1 hu⟩
      · rintro ⟨t, hc, hu⟩
        exact .inr ⟨n, rest, t, rfl, hc, (ih _ hc).2 hu⟩

theorem isPlace_of_child? {t : Tree} (h : t.WellFormed) {place : List String} {u : Tree}
    (hu : child? place t = some u) : IsPlace place := by
  induction h generalizing place with
  | file content mode =>
    cases place with
    | nil => exact isPlace_nil
    | cons n rest => cases hu
  | link target =>
    cases place with
    | nil => exact isPlace_nil
    | cons n rest => cases hu
  | @dir children names distinct inside ih =>
    cases place with
    | nil => exact isPlace_nil
    | cons n rest =>
      obtain ⟨t, hc, hu⟩ := (child?_cons distinct).1 hu
      exact isPlace_cons (names _ hc) (ih _ hc hu)

theorem nodup_places {t : Tree} (h : t.WellFormed) : ((places t).map Prod.fst).Nodup := by
  induction h with
  | file content mode => simp [places]
  | link target => simp [places]
  | @dir children names distinct inside ih =>
    rw [places, List.map_cons, List.nodup_cons]
    constructor
    · rintro hmem
      obtain ⟨⟨place, u⟩, hin, hnil⟩ := List.mem_map.1 hmem
      obtain ⟨n, rest, t, hcons, -⟩ := mem_placesIn.1 hin
      exact List.cons_ne_nil n rest (hcons.symm.trans hnil)
    · rw [placesIn_eq]
      refine List.pairwise_map.2 (List.pairwise_flatMap.2 ⟨fun c hc => ?_, ?_⟩)
      · refine List.pairwise_map.2 ((List.pairwise_map.1 (ih c hc)).imp fun hne heq => ?_)
        exact hne (List.cons.inj heq).2
      · refine (List.pairwise_map.1 distinct).imp fun {c d} hne x hx y hy heq => ?_
        obtain ⟨x', -, rfl⟩ := List.mem_map.1 hx
        obtain ⟨y', -, rfl⟩ := List.mem_map.1 hy
        exact hne (List.cons.inj heq).1

/-! ## The order of a listing -/

theorem WellFormed.perm {children children' : List (String × Tree)}
    (h : (Tree.dir children).WellFormed) (hperm : children.Perm children') :
    (Tree.dir children').WellFormed := by
  cases h with
  | dir names distinct inside =>
    exact .dir (fun c hc => names c (hperm.mem_iff.2 hc)) ((hperm.map Prod.fst).nodup_iff.1 distinct)
      fun c hc => inside c (hperm.mem_iff.2 hc)

/-- What is below a directory is there in whatever order its children are listed. -/
theorem child?_perm {children children' : List (String × Tree)} (h : (dir children).WellFormed)
    (hperm : children.Perm children') (n : String) (rest : List String) :
    child? (n :: rest) (dir children) = child? (n :: rest) (dir children') := by
  cases h with
  | dir names distinct inside => rw [child?, child?, lookup_perm distinct hperm]

/-! ## What a walk meets -/

/-- What a walk sees of something with a path; nothing of a directory. -/
def source? (path : String) : Tree → Option SourceFile
  | .file content mode => some ⟨path, .file content, fileType ||| mode⟩
  | .link target => some ⟨path, .symlink target, symlinkMode⟩
  | .dir _ => none

theorem sourcesIn_eq (parent : String) (children : List (String × Tree)) :
    sourcesIn parent children = children.flatMap fun c => sources (childPath parent c.1) c.2 := by
  induction children with
  | nil => simp [sourcesIn]
  | cons c rest ih => rw [sourcesIn, ih, List.flatMap_cons]

theorem directoriesIn_eq (parent : String) (children : List (String × Tree)) :
    directoriesIn parent children =
      children.flatMap fun c => directories (childPath parent c.1) c.2 := by
  induction children with
  | nil => simp [directoriesIn]
  | cons c rest ih => rw [directoriesIn, ih, List.flatMap_cons]

theorem sources_eq {t : Tree} (h : t.WellFormed) {above : List String} (habove : IsPlace above) :
    sources (placePath above) t =
      (places t).filterMap fun x => x.2.source? (placePath (above ++ x.1)) := by
  induction h generalizing above with
  | file content mode => simp [sources, places, source?]
  | link target => simp [sources, places, source?]
  | @dir children names distinct inside ih =>
    rw [sources, sourcesIn_eq, places, List.filterMap_cons, placesIn_eq, List.filterMap_flatMap]
    refine congrArg List.flatten (List.map_congr_left fun c hc => ?_)
    rw [childPath_placePath habove, ih c hc (habove.append (names c hc)), List.filterMap_map]
    simp only [Function.comp_def, List.append_assoc, List.singleton_append]

def isDir : Tree → Bool
  | .dir _ => true
  | _ => false

theorem directories_eq {t : Tree} (h : t.WellFormed) {above : List String} (habove : IsPlace above) :
    directories (placePath above) t =
      ((places t).filter fun x => x.2.isDir).map fun x => placePath (above ++ x.1) := by
  induction h generalizing above with
  | file content mode => simp [directories, places, isDir]
  | link target => simp [directories, places, isDir]
  | @dir children names distinct inside ih =>
    rw [directories, directoriesIn_eq, places, List.filter_cons_of_pos rfl, List.map_cons,
      List.append_nil, placesIn_eq, List.filter_flatMap, List.map_flatMap]
    refine congrArg (_ :: List.flatten ·) (List.map_congr_left fun c hc => ?_)
    rw [childPath_placePath habove, ih c hc (habove.append (names c hc)), List.filter_map,
      List.map_map]
    simp only [Function.comp_def, List.append_assoc, List.singleton_append]

end OciCompose.Tree
