import OciCompose.Proofs.Layer.Directory
import OciCompose.Proofs.Utf8

/-
  What a walk returns.
  `Enumerates` says that a list has one entry for each file and each symlink that is retained of a tree,
  and is in the order of the bytes of the paths. `walk_enumerates`: a walk returns such a list, or fails
  because it looks at something that is too far from the root.
-/

namespace OciCompose.Tree

open OciCompose.Layer

variable {top : Tree} {root : String} {ignore : IgnoreRules} {children : List (String × Tree)}
  {files : List SourceFile}

/-- Exactly one entry for each file and each symlink that is not ignored, and none for anything else, in
    strictly ascending order of the bytes of their paths. -/
structure Enumerates (ignore : IgnoreRules) (children : List (String × Tree))
    (files : List SourceFile) : Prop where
  ascending : files.Pairwise fun f g => Utf8.encode f.relative < Utf8.encode g.relative
  file : ∀ place content mode, child? place (dir children) = some (file content mode) →
    ignore.ignores (placePath place) = false →
    ∃ f, files.filter (fun g => g.relative = placePath place) = [f] ∧ f.kind = .file content ∧
      f.mode = fileType ||| mode ∧ f.size = content.length
  link : ∀ place target, child? place (dir children) = some (link target) →
    ignore.ignores (placePath place) = false →
    ∃ f, files.filter (fun g => g.relative = placePath place) = [f] ∧ f.kind = .symlink target ∧
      f.size = 0
  only : ∀ f ∈ files, ∃ place leaf, child? place (dir children) = some leaf ∧ leaf.isDir = false ∧
    ignore.ignores (placePath place) = false ∧ f.relative = placePath place

/-- Of files with distinct paths, one has the path of one of them. -/
theorem filter_relative (h : files.Pairwise fun f g => f.relative ≠ g.relative) {f : SourceFile}
    (hf : f ∈ files) : files.filter (fun g => g.relative = f.relative) = [f] := by
  obtain ⟨before, after, rfl⟩ := List.append_of_mem hf
  obtain ⟨-, hafter, hbefore⟩ := List.pairwise_append.1 h
  have hnone : ∀ g ∈ before, ¬ decide (g.relative = f.relative) = true := fun g hg heq =>
    hbefore g hg f List.mem_cons_self (of_decide_eq_true heq)
  have hnone' : ∀ g ∈ after, ¬ decide (g.relative = f.relative) = true := fun g hg heq =>
    (List.pairwise_cons.1 hafter).1 g hg (of_decide_eq_true heq).symm
  rw [List.filter_append, List.filter_cons, List.filter_eq_nil_iff.2 hnone,
    List.filter_eq_nil_iff.2 hnone', if_pos (decide_eq_true rfl)]
  rfl

/-- What is left below a root, in order, enumerates what is retained. -/
theorem enumerates_keptBelow (hwf : (dir children).WellFormed) (ignore : IgnoreRules) :
    Enumerates ignore children (keptBelow ignore children) := by
  have hlists := lists_keptBelow hwf ignore
  constructor
  case ascending => exact (ascending_keptBelow hwf).imp Utf8.encode_lt
  case file =>
    intro place content mode hfound hkept
    have hmem := (hlists.mem _).2 ⟨place, _, ⟨hfound, rfl, hkept⟩, rfl⟩
    exact ⟨_, filter_relative hlists.distinct hmem, rfl, rfl, rfl⟩
  case link =>
    intro place target hfound hkept
    have hmem := (hlists.mem _).2 ⟨place, _, ⟨hfound, rfl, hkept⟩, rfl⟩
    exact ⟨_, filter_relative hlists.distinct hmem, rfl, rfl⟩
  case only =>
    intro f hf
    obtain ⟨place, leaf, hretained, hsource⟩ := (hlists.mem f).1 hf
    exact ⟨place, leaf, hretained.found, hretained.notDir, hretained.kept, relative_source? hsource⟩

/-- A walk from a directory that is not a symlink fails exactly if it looks at something too far from
    the root: a directory, or a file or symlink that is not ignored. Else it enumerates what is
    retained. -/
theorem walk_enumerates (hroot : top.resolve root = .ok (dir children))
    (hreal : ∀ target, top.at? root ≠ some (link target)) (hwf : (dir children).WellFormed)
    (ignore : IgnoreRules) :
    (MeetsFar root ignore children →
      ∃ path, top.walk root ignore = .error (.walk path .nameTooLong)) ∧
    (¬ MeetsFar root ignore children →
      ∃ files, top.walk root ignore = .ok files ∧ Enumerates ignore children files) := by
  obtain ⟨hfar, path, hwalk⟩ | ⟨hnear, hwalk⟩ := walk_cases hwf hroot ignore
  · exact ⟨fun _ => ⟨path, hwalk⟩, fun hnear => absurd hfar hnear⟩
  · refine ⟨fun hfar => absurd hfar hnear, fun _ => ⟨_, hwalk, ?_⟩⟩
    rw [keptBelow_of_walk hroot hreal hwf hwalk]
    exact enumerates_keptBelow hwf ignore

/-- The files of a small directory. -/
theorem walk_enumerates_small :
    ∃ files, (Small.tree 0o644).walk "t" .none = .ok files ∧
      Enumerates .none (Small.entries 0o644) files :=
  (walk_enumerates (Small.resolve_t 0o644) (fun _ h => by cases (Small.at?_t 0o644).symm.trans h)
    (Small.wellFormed 0o644) .none).2 (Small.not_meetsFar (.refl _) (by decide))

/-- They are not returned if the root is spelled with too many dots. -/
theorem not_enumerates_far :
    (Small.tree 0o644).resolve Far.root = .ok (dir (Small.entries 0o644)) ∧
    (∀ target, (Small.tree 0o644).at? Far.root ≠ some (link target)) ∧
    (dir (Small.entries 0o644)).WellFormed ∧
    ¬ ∃ files, (Small.tree 0o644).walk Far.root .none = .ok files ∧
      Enumerates .none (Small.entries 0o644) files := by
  have hroot : (Small.tree 0o644).resolve Far.root = .ok (dir (Small.entries 0o644)) :=
    Small.resolve_dots (by decide) _
  have hreal : ∀ target, (Small.tree 0o644).at? Far.root ≠ some (link target) := by
    intro target h
    cases (Small.at?_dots 2047 0o644).symm.trans h
  refine ⟨hroot, hreal, Small.wellFormed _, ?_⟩
  rintro ⟨files, hwalk, -⟩
  obtain ⟨-, path, herror⟩ | ⟨hnear, -⟩ := walk_cases (Small.wellFormed 0o644) hroot .none
  · cases hwalk.symm.trans herror
  · exact hnear (Far.meetsFar_small 0o644)

end OciCompose.Tree
