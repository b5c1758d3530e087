import OciCompose.Proofs.Tar.Archive
import OciCompose.Proofs.Text

/-
  The spelling of paths in archives.
  A path that has room in its field is written component by component, so it comes out `tidy`; a path
  that needs an entry of its own comes out as it was given. `shown` is what becomes of a path, so the
  members of an archive have the shown paths of what was written (`paths_of_write`). A `Plain` path is
  shown as it is (`shown_of_plain`), others may be shown alike.
-/

namespace OciCompose.Tar

open OciCompose.Path

/-! ## Pieces of a path -/

/-- What is left of the components of a path that is relative and does not go up: its names, or a dot
    that stands alone. -/
def kept (alone : Bool) (cs : List Component) : List (List Char) :=
  cs.filterMap fun
    | .name n => some n
    | .current => if alone then some ['.'] else none
    | .root => none
    | .parent => none

/-- A path without its empty components and dots. A slash at its end and a dot alone stay. -/
def tidy (path : List Char) : List Char :=
  let cs := components path
  join (kept (cs.length == 1) cs) ++ if path.getLast? = some '/' then ['/'] else []

theorem nameComponents_eq_kept {alone : Bool} {cs : List Component}
    (h : ∀ p ∈ nameComponents false alone cs, p.isRefused = false) :
    nameComponents false alone cs = (kept alone cs).map Piece.ofChars := by
  induction cs with
  | nil => rfl
  | cons c cs ih =>
    cases c with
    | root => cases h _ List.mem_cons_self
    | parent => cases h _ List.mem_cons_self
    | current =>
      unfold nameComponents at h ⊢
      cases alone with
      | true =>
        rw [if_pos rfl] at h ⊢
        exact congrArg _ (ih fun p hp => h p (List.mem_cons_of_mem _ hp))
      | false => exact ih h
    | name n => exact congrArg _ (ih fun p hp => h p (List.mem_cons_of_mem _ hp))

theorem mem_withSlashes {p : Piece} {ps : List Piece} (h : p ∈ ps) : p ∈ withSlashes ps := by
  induction ps with
  | nil => exact h
  | cons q ps ih =>
    cases ps with
    | nil => exact h
    | cons q' rest =>
      unfold withSlashes
      rcases List.mem_cons.1 h with rfl | h
      · split <;> exact List.mem_cons_self
      · have hrest := ih h
        split
        · exact List.mem_cons_of_mem _ hrest
        · exact List.mem_cons_of_mem _ (List.mem_cons_of_mem _ hrest)

theorem slash_not_mem_of_name {path n : List Char} (h : Component.name n ∈ components path) :
    '/' ∉ n := by
  rcases List.mem_append.1 h with hlead | hrest
  · split at hlead
    · rw [List.mem_singleton] at hlead
      cases hlead
    · rw [List.mem_singleton] at hlead
      cases hlead
    · cases hlead
  · obtain ⟨s, hs, hname⟩ := List.mem_filterMap.1 hrest
    unfold ofSegment at hname
    split at hname
    · cases hname
    split at hname
    · cases hname
    · cases hname
      exact not_mem_of_mem_splitOn hs

theorem slash_not_mem_kept {path : List Char} {alone : Bool} {s : List Char}
    (h : s ∈ kept alone (components path)) : '/' ∉ s := by
  obtain ⟨c, hc, hs⟩ := List.mem_filterMap.1 h
  cases c with
  | root => cases hs
  | parent => cases hs
  | current =>
    cases alone with
    | true =>
      cases hs
      decide
    | false => cases hs
  | name n =>
    cases hs
    exact slash_not_mem_of_name hc

theorem mem_finish {path : List Char} {p : Piece} {ps : List Piece} (h : p ∈ ps) :
    p ∈ finish path ps := by
  unfold finish
  rw [if_neg (List.ne_nil_of_mem h)]
  exact List.mem_append_left _ (mem_withSlashes h)

/-- A path that is not refused is written as it is tidied. -/
theorem namePieces_eq_tidy {path : List Char}
    (h : ∀ p ∈ namePieces false path, p.isRefused = false) :
    ∃ ts : List (List Char), namePieces false path = ts.map Piece.ofChars ∧ ts.flatten = tidy path := by
  unfold namePieces at h ⊢
  unfold tidy
  dsimp only at h ⊢
  generalize ((components path).length == 1) = alone at h ⊢
  have hkept := nameComponents_eq_kept fun p hp => h p (mem_finish hp)
  have hne : kept alone (components path) ≠ [] := by
    intro hnil
    rw [hkept, hnil] at h
    cases h _ List.mem_cons_self
  rw [hkept, finish_ofChars path hne fun s hs => slash_not_mem_kept hs]
  refine ⟨_, rfl, ?_⟩
  rw [List.flatten_append, flatten_intersperse]
  split <;> rfl

/-- A path as it is in an archive: tidied, or as it was given if it needs an entry of its own. -/
def shown (path : List Char) : List Char :=
  if (fill blank 0 (namePieces false path)).2 = none then tidy path else path

theorem ofChars_flatten {bss : List Bytes} {ts : List (List Char)}
    (h : bss.map Piece.bytes = ts.map Piece.ofChars) : bss.flatten = encodeChars ts.flatten := by
  induction bss generalizing ts with
  | nil =>
    cases ts with
    | nil => rfl
    | cons t ts => cases h
  | cons b bss ih =>
    cases ts with
    | nil => cases h
    | cons t ts =>
      obtain ⟨hb, hrest⟩ := List.cons.inj h
      rw [List.flatten_cons, List.flatten_cons, encodeChars_append, ih hrest, Piece.bytes.inj hb]
      rfl

theorem not_refused_of_fill {ps : List Piece} {fld : Bytes} (h : fill blank 0 ps = (fld, none)) :
    ∀ p ∈ ps, p.isRefused = false := by
  obtain ⟨bss, rfl, -⟩ := untilNul_of_fill_blank h
  intro p hp
  obtain ⟨b, -, rfl⟩ := List.mem_map.1 hp
  rfl

/-- What is read of the name of a path is the path as it is shown. -/
theorem carried_of_fillName {path : List Char} {f : Filled} (h : fillName path = .ok f) :
    f.carried path = encodeChars (shown path) := by
  unfold fillName at h
  unfold shown Filled.carried
  split at h
  · next fld hfill =>
    cases h
    obtain ⟨bss, hpieces, hread⟩ := untilNul_of_fill_blank hfill
    obtain ⟨ts, hts, htidy⟩ := namePieces_eq_tidy (not_refused_of_fill hfill)
    rw [hfill, if_pos rfl, if_neg Bool.false_ne_true, hread,
      ofChars_flatten (hpieces.symm.trans hts), htidy]
  · next fld fault hfill =>
    split at h
    · cases h
    split at h
    · cases h
      rw [hfill, if_pos rfl, if_neg (Option.some_ne_none fault)]
    · cases h

theorem Member.ReadAs.path_eq {m m' : Member} (h : m.ReadAs m') :
    m'.path = String.ofList (shown m.path.toList) := by
  have hread : ∀ {name}, fillName m.path.toList = .ok name →
      Utf8.decodeLossy (name.carried m.path.toList) = String.ofList (shown m.path.toList) := by
    intro name hname
    rw [carried_of_fillName hname, ← decodeLossy_encodeChars (String.ofList _), String.toList_ofList]
  cases h with
  | file _ path => exact hread path
  | symlink _ path _ => exact hread path

/-- The members of an archive have the paths of what was written, as they are shown. -/
theorem paths_of_write {ms : List Member} (h : ∀ m ∈ ms, m.Bounded) {bs : Bytes}
    (hwrite : write ms = .ok bs) :
    ∃ ms', read? bs = some ms' ∧
      ms'.map Member.path = ms.map fun m => String.ofList (shown m.path.toList) := by
  obtain ⟨ms', hread, hms'⟩ := read?_of_write h hwrite
  refine ⟨ms', hread, ?_⟩
  clear h hwrite hread
  induction hms' with
  | nil => rfl
  | cons hm _ ih => rw [List.map_cons, List.map_cons, hm.path_eq, ih]

/-! ## Plain paths -/

/-- Segments with slashes between them. One slash may stand at the end. -/
def Plain (path : List Char) : Prop :=
  ∃ segments, segments ≠ [] ∧ (∀ s ∈ segments, IsSegment s) ∧
    (path = join segments ∨ path = join segments ++ ['/'])

/-- A component that goes up is refused. -/
theorem parent_not_mem {path : List Char} (h : ∀ p ∈ namePieces false path, p.isRefused = false) :
    Component.parent ∉ components path := by
  have hrefused : ∀ (alone : Bool) (cs : List Component), Component.parent ∈ cs →
      Piece.refused .parent ∈ nameComponents false alone cs := by
    intro alone cs hcs
    induction cs with
    | nil => cases hcs
    | cons c cs ih =>
      rcases List.mem_cons.1 hcs with rfl | hcs
      · exact List.mem_cons_self
      · have hrest := ih hcs
        cases c with
        | current =>
          unfold nameComponents
          split
          · exact List.mem_cons_of_mem _ hrest
          · exact hrest
        | root => exact List.mem_cons_of_mem _ hrest
        | parent => exact List.mem_cons_of_mem _ hrest
        | name n => exact List.mem_cons_of_mem _ hrest
  intro hmem
  cases h _ (mem_finish (hrefused _ _ hmem))

theorem kept_named {alone : Bool} {segments : List (List Char)}
    (h : Component.parent ∉ segments.map Component.named) :
    kept alone (segments.map Component.named) = segments := by
  induction segments with
  | nil => rfl
  | cons s rest ih =>
    rw [List.map_cons, List.mem_cons, not_or] at h
    have hs : Component.named s = .name s := by
      refine if_neg fun hparent => h.1 ?_
      rw [hparent]
      rfl
    rw [List.map_cons, hs]
    exact congrArg (s :: ·) (ih h.2)

/-- An archive shows a plain path as it is. -/
theorem shown_of_plain {path : List Char} (h : Plain path) : shown path = path := by
  unfold shown
  split
  · next hfits =>
    obtain ⟨segments, hne, hsegments, hpath⟩ := h
    have hparent := parent_not_mem (not_refused_of_fill (Prod.ext rfl hfits))
    unfold tidy
    dsimp only
    rcases hpath with rfl | rfl
    · rw [components_join hne hsegments] at hparent ⊢
      rw [kept_named hparent, if_neg (getLast?_join_ne hne hsegments), List.append_nil]
    · rw [components_join_slash hne hsegments] at hparent ⊢
      rw [kept_named hparent, List.getLast?_concat, if_pos rfl]
  · rfl

end OciCompose.Tar
