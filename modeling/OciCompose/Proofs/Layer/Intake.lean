import Mathlib.Algebra.GroupWithZero.Nat
import OciCompose.Layer.Builder
import OciCompose.Proofs.Layer.Staging

/-
  Taking in the files of a directory.
  `staging_add` and `events_add` say what one file does: it is staged, or it is left out with a warning;
  `staging_foldl` and `events_foldl` say it of several. `addAll_ok`: if no file is refused, all are taken
  in; else those before the first that is (`addAll_error`), for a reason that `refusal?_eq_some` gives.
  `result_of_taken` goes on from there to the layer.
-/

namespace OciCompose

/-- What a file or symlink is in a layer; nothing for a symlink that leads out of the source. -/
def SourceFile.staged? (f : SourceFile) : Option StagedEntry :=
  match f.kind with
  | .file content => some (.file content (some f.mode))
  | .symlink target => if Path.isAbsolute target then none else some (.symlink target)

/-- The path and the target of a symlink that leads out of the source. -/
def SourceFile.outward? (f : SourceFile) : Option (String × String) :=
  match f.kind with
  | .file _ => none
  | .symlink target => if Path.isAbsolute target then some (f.relative, target) else none

namespace Layer

/-- The warning for a symlink with a path and a target. -/
def skipped (link : String × String) : Event :=
  .warning ("skipping symlink " ++ link.1 ++ " pointing outside the source tree: " ++ link.2)

/-- What is inserted for a file, and where. -/
def insertion? (d : LocalDir) (f : SourceFile) : Option (String × StagedEntry) :=
  f.staged?.map fun e => (d.containerPath.map f.relative, e)

namespace Intake

variable {d : LocalDir} {i i' : Intake} {files : List SourceFile}

theorem staging_add (d : LocalDir) (i : Intake) (f : SourceFile) :
    (i.add d f).staging =
      (insertion? d f).toList.foldl (fun s x => s.insert x.1 x.2) i.staging := by
  unfold add insertion? SourceFile.staged?
  cases f.kind with
  | file content => rfl
  | symlink target =>
    dsimp only
    split <;> rfl

theorem bytes_add (d : LocalDir) (i : Intake) (f : SourceFile) :
    (i.add d f).bytes = i.bytes + UInt64.ofNat f.size := by
  unfold add
  cases f.kind with
  | file content => rfl
  | symlink target =>
    dsimp only
    split <;> rfl

theorem events_add (d : LocalDir) (i : Intake) (f : SourceFile) :
    (i.add d f).events = i.events ++ f.outward?.toList.map skipped := by
  unfold add SourceFile.outward?
  cases f.kind with
  | file content => exact (List.append_nil _).symm
  | symlink target =>
    dsimp only
    split
    · rfl
    · exact (List.append_nil _).symm

/-! ### Several files -/

theorem staging_foldl (d : LocalDir) (i : Intake) (files : List SourceFile) :
    (files.foldl (add d) i).staging =
      (files.filterMap (insertion? d)).foldl (fun s x => s.insert x.1 x.2) i.staging := by
  induction files generalizing i with
  | nil => rfl
  | cons f rest ih =>
    rw [List.foldl_cons, ih, staging_add, List.filterMap_cons]
    cases insertion? d f <;> rfl

theorem events_foldl (d : LocalDir) (i : Intake) (files : List SourceFile) :
    (files.foldl (add d) i).events =
      i.events ++ (files.filterMap SourceFile.outward?).map skipped := by
  induction files generalizing i with
  | nil => exact (List.append_nil _).symm
  | cons f rest ih =>
    rw [List.foldl_cons, ih, events_add, List.filterMap_cons]
    cases f.outward? <;> simp

/-- The bytes add up, in 64 bits. -/
theorem bytes_foldl (d : LocalDir) (i : Intake) (files : List SourceFile) :
    (files.foldl (add d) i).bytes = i.bytes + UInt64.ofNat (files.map SourceFile.size).sum := by
  induction files generalizing i with
  | nil => exact (UInt64.add_zero _).symm
  | cons f rest ih =>
    rw [List.foldl_cons, ih, bytes_add, List.map_cons, List.sum_cons, UInt64.ofNat_add,
      UInt64.add_assoc]

/-! ### Refusals -/

/-- The limit that the next file exceeds, and by what. -/
theorem overLimit?_eq_some {f : SourceFile} {e : Error} (h : overLimit? d i f = some e) :
    (∃ m, d.maxFiles = some m ∧ m.toNat ≤ i.staging.size ∧
      e = .limitExceeded .files (i.staging.size + 1) m.toNat) ∨
    ∃ m, d.maxSize = some m ∧ m < i.bytes + UInt64.ofNat f.size ∧
      e = .limitExceeded .size (i.bytes + UInt64.ofNat f.size).toNat m.toNat := by
  unfold overLimit? at h
  dsimp only at h
  split at h
  · next m hm =>
    obtain ⟨hlimit, hle⟩ := Option.filter_eq_some_iff.1 hm
    exact .inl ⟨m, hlimit, of_decide_eq_true hle, (Option.some.inj h).symm⟩
  · obtain ⟨m, hm, rfl⟩ := Option.map_eq_some_iff.1 h
    obtain ⟨hlimit, hlt⟩ := Option.filter_eq_some_iff.1 hm
    exact .inr ⟨m, hlimit, of_decide_eq_true hlt, rfl⟩

/-- A file that exceeds no limit leaves room for itself. -/
theorem overLimit?_eq_none {f : SourceFile} (h : overLimit? d i f = none) :
    (∀ m, d.maxFiles = some m → i.staging.size < m.toNat) ∧
      ∀ m, d.maxSize = some m → i.bytes + UInt64.ofNat f.size ≤ m := by
  unfold overLimit? at h
  dsimp only at h
  split at h
  · cases h
  · next hfiles =>
    rw [Option.filter_eq_none_iff] at hfiles
    rw [Option.map_eq_none_iff, Option.filter_eq_none_iff] at h
    constructor
    · exact fun m hm => Nat.lt_of_not_le fun hle => hfiles m hm (decide_eq_true hle)
    · exact fun m hm => UInt64.not_lt.1 fun hlt => h m hm (decide_eq_true hlt)

/-- An error of a configured limit, which what it names exceeds. -/
inductive Exceeds (d : LocalDir) : Error → Prop
  | files (m : UInt64) (actual : Nat) (limit : d.maxFiles = some m) (more : m.toNat < actual) :
    Exceeds d (.limitExceeded .files actual m.toNat)
  | size (m : UInt64) (actual : Nat) (limit : d.maxSize = some m) (more : m.toNat < actual) :
    Exceeds d (.limitExceeded .size actual m.toNat)

theorem refusal?_eq_some {f : SourceFile} {e : Error} (h : refusal? d i f = some e) :
    overLimit? d i f = some e ∧ Exceeds d e ∨ e = .io .permissionDenied ∧ f.isReadable = false := by
  unfold refusal? at h
  split at h
  · next hlimit =>
    rw [Option.some.inj h] at hlimit
    refine .inl ⟨hlimit, ?_⟩
    rcases overLimit?_eq_some hlimit with ⟨m, hm, hle, rfl⟩ | ⟨m, hm, hlt, rfl⟩
    · exact .files m _ hm (Nat.lt_succ_of_le hle)
    · exact .size m _ hm (UInt64.lt_iff_toNat_lt.1 hlt)
  · split at h
    · cases h
    · next hread => exact .inr ⟨(Option.some.inj h).symm, by simpa using hread⟩

theorem overLimit?_of_not_refused {f : SourceFile} (h : refusal? d i f = none) :
    overLimit? d i f = none := by
  unfold refusal? at h
  split at h
  · cases h
  · assumption

/-- If none of some files is refused they are taken in, and none is refused behind those before it. -/
theorem addAll_ok (h : addAll d i files = (none, i')) :
    i' = files.foldl (add d) i ∧ ∀ before f after, files = before ++ f :: after →
      refusal? d (before.foldl (add d) i) f = none := by
  induction files generalizing i with
  | nil =>
    cases h
    refine ⟨rfl, fun before f after hsplit => ?_⟩
    cases before <;> cases hsplit
  | cons g rest ih =>
    rw [addAll] at h
    split at h
    · cases h
    · next hrefusal =>
      obtain ⟨htaken, hrest⟩ := ih h
      refine ⟨htaken, fun before f after hsplit => ?_⟩
      cases before with
      | nil =>
        cases hsplit
        exact hrefusal
      | cons b before =>
        obtain ⟨rfl, hsplit'⟩ := List.cons.inj hsplit
        exact hrest before f after hsplit'

/-- Else those before the first that is refused are taken in. -/
theorem addAll_error {e : Error} (h : addAll d i files = (some e, i')) :
    ∃ before f after, files = before ++ f :: after ∧ i' = before.foldl (add d) i ∧
      refusal? d i' f = some e := by
  induction files generalizing i with
  | nil => cases h
  | cons g rest ih =>
    rw [addAll] at h
    split at h
    · next hrefused =>
      obtain ⟨he, rfl⟩ := Prod.mk.inj h
      exact ⟨[], g, rest, rfl, rfl, hrefused.trans he⟩
    · obtain ⟨before, f, after, rfl, htaken, hrefused⟩ := ih h
      exact ⟨g :: before, f, after, rfl, htaken, hrefused⟩

end Intake

/-! ## Results -/

section

variable (top : Tree) (d : LocalDir) (a : LayerAttributes) (gzip : Bytes → Bytes)

theorem result_of_error {e : Error} (h : top.walk d.path d.ignore = .error e) :
    (ofDir top d a gzip).result = .error e := by
  unfold ofDir
  rw [h]

/-- A refusal ends a build with what was reported up to it. -/
theorem ofDir_of_refused {files : List SourceFile} (h : top.walk d.path d.ignore = .ok files)
    {e : Error} {i : Intake} (hadd : Intake.addAll d .empty files = (some e, i)) :
    ofDir top d a gzip = ⟨.error e, i.events⟩ := by
  unfold ofDir
  rw [h]
  dsimp only
  rw [hadd]

theorem result_of_refused {files : List SourceFile} (h : top.walk d.path d.ignore = .ok files)
    {e : Error} (hadd : (Intake.addAll d .empty files).1 = some e) :
    (ofDir top d a gzip).result = .error e := by
  rw [ofDir_of_refused top d a gzip h (Prod.ext hadd rfl)]

/-- What comes of a directory of which nothing is refused. -/
def ofIntake (source : String) (s : Staging) : Except Error Layer :=
  if s.isEmpty then .error (.emptyLayer source) else (ofStaging source s a gzip).result

theorem result_of_taken {files : List SourceFile} (h : top.walk d.path d.ignore = .ok files)
    (hadd : (Intake.addAll d .empty files).1 = none) :
    (ofDir top d a gzip).result =
      ofIntake a gzip d.path (Intake.addAll d .empty files).2.staging := by
  unfold ofDir ofIntake
  rw [h]
  dsimp only
  cases hres : Intake.addAll d .empty files with
  | mk refused i =>
    rw [hres] at hadd
    cases hadd
    dsimp only
    split <;> rfl

end

end Layer

end OciCompose
