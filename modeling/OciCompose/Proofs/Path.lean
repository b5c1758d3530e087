import OciCompose.Path

/-
  Paths made of segments.
  `components_join`: joined segments are the components again. `exists_join_of_isPrefix`: a path that is
  cut off has whole segments and then a piece of one.
-/

namespace OciCompose.Path

/-- What stands between the slashes of a path without superfluous parts, be it two dots. -/
structure IsSegment (cs : List Char) : Prop where
  ne_nil : cs ≠ []
  ne_current : cs ≠ ['.']
  slash_not_mem : '/' ∉ cs
  nul_not_mem : '\x00' ∉ cs

/-- What something in a directory can be called. -/
structure IsName (cs : List Char) : Prop extends IsSegment cs where
  ne_parent : cs ≠ ['.', '.']

instance (cs : List Char) : Decidable (IsSegment cs) :=
  decidable_of_iff (cs ≠ [] ∧ cs ≠ ['.'] ∧ '/' ∉ cs ∧ '\x00' ∉ cs)
    ⟨fun h => ⟨h.1, h.2.1, h.2.2.1, h.2.2.2⟩, fun h => ⟨h.1, h.2, h.3, h.4⟩⟩

instance (cs : List Char) : Decidable (IsName cs) :=
  decidable_of_iff (IsSegment cs ∧ cs ≠ ['.', '.']) ⟨fun h => ⟨h.1, h.2⟩, fun h => ⟨h.1, h.2⟩⟩

/-- The component of a segment. -/
def Component.named (cs : List Char) : Component := if cs = ['.', '.'] then .parent else .name cs

theorem Component.text_named (cs : List Char) : (named cs).text = cs := by
  unfold named
  split
  · next h => exact h.symm
  · rfl

theorem IsName.named {cs : List Char} (h : IsName cs) : Component.named cs = .name cs :=
  if_neg h.ne_parent

theorem IsSegment.ofSegment {cs : List Char} (h : IsSegment cs) :
    ofSegment cs = some (Component.named cs) := by
  unfold Path.ofSegment Component.named
  rw [if_neg fun h' => h'.elim h.ne_nil h.ne_current]
  exact (apply_ite some _ _ _).symm

/-! ## Joining -/

theorem join_cons_cons (a b : List Char) (rest : List (List Char)) :
    join (a :: b :: rest) = a ++ '/' :: join (b :: rest) := by
  unfold join
  rw [List.intercalate_cons_cons, List.append_assoc]
  rfl

theorem join_singleton (a : List Char) : join [a] = a := by
  simp [join]

theorem join_append_singleton {segments : List (List Char)} (h : segments ≠ []) (last : List Char) :
    join (segments ++ [last]) = join segments ++ '/' :: last := by
  induction segments with
  | nil => exact absurd rfl h
  | cons a rest ih =>
    cases rest with
    | nil =>
      rw [join_singleton, List.singleton_append, join_cons_cons, join_singleton]
    | cons b rest =>
      rw [join_cons_cons, List.cons_append, List.cons_append, join_cons_cons, ← List.cons_append,
        ih (List.cons_ne_nil b rest), List.append_assoc, List.cons_append]

theorem join_append {first rest : List (List Char)} (hfirst : first ≠ []) (hrest : rest ≠ []) :
    join (first ++ rest) = join first ++ '/' :: join rest := by
  obtain ⟨b, bs, rfl⟩ := List.exists_cons_of_ne_nil hrest
  induction first with
  | nil => exact absurd rfl hfirst
  | cons a more ih =>
    cases more with
    | nil => rw [List.singleton_append, join_cons_cons, join_singleton]
    | cons c more =>
      rw [List.cons_append, List.cons_append, join_cons_cons, join_cons_cons, List.append_assoc,
        List.cons_append, ← ih (List.cons_ne_nil c more), List.cons_append]

/-- Joined segments end with a slash exactly if the last one is empty and not the only one. -/
theorem getLast?_join_append {init : List (List Char)} {last : List Char} (hlast : '/' ∉ last) :
    (join (init ++ [last])).getLast? = some '/' ↔ init ≠ [] ∧ last = [] := by
  cases init with
  | nil =>
    rw [List.nil_append, join_singleton]
    exact iff_of_false (fun h => hlast (List.mem_of_getLast? h)) fun h => h.1 rfl
  | cons a rest =>
    rw [join_append_singleton (List.cons_ne_nil a rest), List.getLast?_append]
    cases last with
    | nil => simp
    | cons c cs =>
      rw [List.getLast?_cons_cons, List.getLast?_eq_some_getLast (List.cons_ne_nil c cs)]
      refine iff_of_false (fun h => ?_) fun h => nomatch h.2
      exact hlast (Option.some.inj h ▸ List.getLast_mem _)

/-- Joined segments that are proper ones end with something else. -/
theorem getLast?_join_ne {segments : List (List Char)} (hne : segments ≠ [])
    (h : ∀ s ∈ segments, IsSegment s) : (join segments).getLast? ≠ some '/' := by
  have hlast := h _ (List.getLast_mem hne)
  rw [← List.dropLast_concat_getLast hne]
  exact fun hslash => hlast.ne_nil ((getLast?_join_append hlast.slash_not_mem).1 hslash).2

theorem nul_not_mem_join {segments : List (List Char)} (h : ∀ s ∈ segments, IsSegment s) :
    '\x00' ∉ join segments := by
  induction segments with
  | nil => exact List.not_mem_nil
  | cons a rest ih =>
    have ha := (h a List.mem_cons_self).nul_not_mem
    cases rest with
    | nil => rwa [join_singleton]
    | cons b rest =>
      rw [join_cons_cons, List.mem_append, List.mem_cons]
      rintro (hmem | hmem | hmem)
      · exact ha hmem
      · exact absurd hmem (by decide)
      · exact ih (fun s hs => h s (List.mem_cons_of_mem _ hs)) hmem

/-- Joined segments have no slash at the front. -/
theorem dropWhile_join {segments : List (List Char)} (h : ∀ s ∈ segments, IsSegment s) :
    (join segments).dropWhile (· == '/') = join segments := by
  cases segments with
  | nil => rfl
  | cons a rest =>
    have ha := h a List.mem_cons_self
    obtain ⟨c, cs, rfl⟩ := List.exists_cons_of_ne_nil ha.ne_nil
    obtain ⟨more, hmore⟩ : ∃ more, join ((c :: cs) :: rest) = c :: more := by
      cases rest with
      | nil => exact ⟨cs, join_singleton _⟩
      | cons b rest => exact ⟨_, join_cons_cons _ _ _⟩
    have hc : ¬ (c == '/') = true := fun heq =>
      ha.slash_not_mem (eq_of_beq heq ▸ List.mem_cons_self)
    rw [hmore]
    exact List.dropWhile_cons_of_neg hc

theorem splitOn_join {segments : List (List Char)} (hne : segments ≠ [])
    (h : ∀ s ∈ segments, '/' ∉ s) : (join segments).splitOn '/' = segments :=
  List.splitOn_intercalate '/' h hne

theorem filterMap_ofSegment {segments : List (List Char)} (h : ∀ s ∈ segments, IsSegment s) :
    segments.filterMap ofSegment = segments.map Component.named := by
  induction segments with
  | nil => rfl
  | cons s rest ih =>
    rw [List.filterMap_cons, (h s List.mem_cons_self).ofSegment, List.map_cons,
      ih fun x hx => h x (List.mem_cons_of_mem _ hx)]

/-- The components of a path whose segments are proper ones before the last. A last one that is empty
    or a dot does not count, unless it is alone. -/
theorem components_join_append {init : List (List Char)} {last : List Char}
    (h : ∀ s ∈ init, IsSegment s) (hlast : '/' ∉ last)
    (halone : init = [] → last ≠ ['.']) :
    components (join (init ++ [last])) = init.map Component.named ++ (ofSegment last).toList := by
  have hsplit : (join (init ++ [last])).splitOn '/' = init ++ [last] := by
    refine splitOn_join (by simp) fun s hs => ?_
    rcases List.mem_append.1 hs with hs | hs
    · exact (h s hs).slash_not_mem
    · rw [List.mem_singleton.1 hs]
      exact hlast
  have hlastOnly : [last].filterMap ofSegment = (ofSegment last).toList := by
    cases hl : ofSegment last <;> simp [hl]
  unfold components
  dsimp only
  rw [hsplit, List.filterMap_append, filterMap_ofSegment h, hlastOnly]
  cases init with
  | nil =>
    have hdot := halone rfl
    rw [List.nil_append]
    split
    · next heq => cases heq
    · next heq => exact absurd (List.cons.inj heq).1 hdot
    · rfl
  | cons s rest =>
    have hs := h s List.mem_cons_self
    rw [List.cons_append]
    split
    · next heq => exact absurd (List.cons.inj heq).1 hs.ne_nil
    · next heq => exact absurd (List.cons.inj heq).1 hs.ne_current
    · rfl

/-- Joined segments are the components again. -/
theorem components_join {segments : List (List Char)} (hne : segments ≠ [])
    (h : ∀ s ∈ segments, IsSegment s) : components (join segments) = segments.map Component.named := by
  have hsplit := List.dropLast_concat_getLast hne
  have hlast := h _ (List.getLast_mem hne)
  have hcomponents := components_join_append
    (fun s hs => h s ((List.dropLast_sublist segments).subset hs)) hlast.slash_not_mem
    fun _ => hlast.ne_current
  rw [hsplit, hlast.ofSegment] at hcomponents
  rw [hcomponents]
  conv => rhs; rw [← hsplit]
  rw [List.map_append]
  rfl

/-- A slash at the end adds no component. -/
theorem components_join_slash {segments : List (List Char)} (hne : segments ≠ [])
    (h : ∀ s ∈ segments, IsSegment s) :
    components (join segments ++ ['/']) = segments.map Component.named := by
  have hnone : '/' ∉ ([] : List Char) := List.not_mem_nil
  have hcomponents := components_join_append h hnone fun hnil => (hne hnil).elim
  rw [join_append_singleton hne] at hcomponents
  exact hcomponents.trans (List.append_nil _)

/-- A path that is cut off has whole segments and then a piece of one. -/
theorem exists_join_of_isPrefix {segments : List (List Char)} (hne : segments ≠ [])
    {cs : List Char} (h : cs <+: join segments) :
    ∃ init last, cs = join (init ++ [last]) ∧ (∀ s ∈ init, s ∈ segments) ∧
      ∃ s ∈ segments, last <+: s := by
  induction segments generalizing cs with
  | nil => exact absurd rfl hne
  | cons a rest ih =>
    cases rest with
    | nil =>
      rw [join_singleton] at h
      exact ⟨[], cs, (join_singleton cs).symm, nofun, a, List.mem_cons_self, h⟩
    | cons b rest =>
      rw [join_cons_cons] at h
      rcases Nat.le_total cs.length a.length with hle | hle
      · have hcs := List.prefix_of_prefix_length_le h (List.prefix_append a _) hle
        exact ⟨[], cs, (join_singleton cs).symm, nofun, a, List.mem_cons_self, hcs⟩
      · obtain ⟨t, rfl⟩ := List.prefix_of_prefix_length_le (List.prefix_append a _) h hle
        rw [List.prefix_append_right_inj] at h
        rcases List.prefix_cons_iff.1 h with rfl | ⟨t', rfl, ht'⟩
        · refine ⟨[], a, ?_, nofun, a, List.mem_cons_self, List.prefix_rfl⟩
          rw [List.append_nil]
          exact (join_singleton a).symm
        · obtain ⟨init, last, rfl, hinit, s, hs, hlast⟩ := ih (List.cons_ne_nil b rest) ht'
          refine ⟨a :: init, last, ?_, ?_, s, List.mem_cons_of_mem _ hs, hlast⟩
          · cases init with
            | nil => exact (join_cons_cons a last []).symm
            | cons c init => exact (join_cons_cons a c (init ++ [last])).symm
          · intro s hs
            rcases List.mem_cons.1 hs with rfl | hs
            · exact List.mem_cons_self
            · exact List.mem_cons_of_mem _ (hinit s hs)

end OciCompose.Path
