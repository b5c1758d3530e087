import OciCompose.Proofs.Layer.Determinism

/-
  Roots of walks.
  `walk_anywhere`: what is found below a directory does not depend on the root that leads to it. But a root
  that is a symlink is found itself, too.
-/

namespace OciCompose.Tree

variable {children : List (String × Tree)}

/-- Walks from all roots that lead to one directory find the same below it, each with a path of its own
    that is not empty, unless something is too far from the root. A root that is a symlink itself is
    listed in front of that, with an empty path. -/
theorem walk_anywhere (hwf : (dir children).WellFormed) (ignore : IgnoreRules) :
    ∃ files : List SourceFile, (∀ f ∈ files, f.relative ≠ "") ∧
      ∀ (top : Tree) (root : String), top.resolve root = .ok (dir children) →
        (MeetsFar root ignore children →
          ∃ path, top.walk root ignore = .error (.walk path .nameTooLong)) ∧
        (¬ MeetsFar root ignore children →
          ((∀ target, top.at? root ≠ some (.link target)) → top.walk root ignore = .ok files) ∧
          ∀ target, top.at? root = some (.link target) →
            top.walk root ignore = .ok (⟨"", .symlink target, symlinkMode⟩ :: files)) := by
  refine ⟨keptBelow ignore children, fun f hf => relative_ne_empty hwf (mem_keptBelow.1 hf).1, ?_⟩
  intro top root hroot
  obtain ⟨hfar, hwalk⟩ | ⟨hnear, hwalk⟩ := walk_at hwf hroot ignore
  · exact ⟨fun _ => hwalk, fun hnear => absurd hfar hnear⟩
  refine ⟨fun hfar => absurd hfar hnear, fun _ => ⟨fun hreal => ?_, fun target hlink => ?_⟩⟩
  · rw [hwalk, rootSource_of_real hreal, List.nil_append]
  · rw [hwalk, rootSource_of_link hlink, List.singleton_append]

open Layer.Small in
/-- A small directory, and a symlink to it. -/
theorem walk_anywhere_small :
    ∃ files : List SourceFile, (∀ f ∈ files, f.relative ≠ "") ∧
      (tree 0o644).walk "t" .none = .ok files ∧
      (tree 0o644).walk "l" .none = .ok (⟨"", .symlink "t", symlinkMode⟩ :: files) := by
  obtain ⟨files, hbelow, hfiles⟩ := walk_anywhere (wellFormed 0o644) .none
  have ht := hfiles _ "t" (resolve_t 0o644)
  have hl := hfiles _ "l" (resolve_l 0o644)
  refine ⟨files, hbelow, ?_, ?_⟩
  · exact (ht.2 (not_meetsFar (.refl _) (by decide))).1 fun _ h => by cases (at?_t 0o644).symm.trans h
  · exact (hl.2 (not_meetsFar (.refl _) (by decide))).2 "t" (at?_l 0o644)

end OciCompose.Tree
