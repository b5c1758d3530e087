/-
  Finite maps from texts, listed in ascending order of their keys.
  The order is that of code points, which is also the byte order of UTF-8. A map carries the proof
  of its order, so `ext_get?`: two maps with the same look-ups are equal.
-/

namespace OciCompose

universe u
variable {α : Type u}

/-- Ascending keys. -/
def Ascending (l : List (String × α)) : Prop := l.Pairwise fun a b => a.1 < b.1

structure SortedMap (α : Type u) where
  toList : List (String × α)
  ascending : Ascending toList

namespace SortedMap

instance [DecidableEq α] : DecidableEq (SortedMap α) := fun a b =>
  if h : a.toList = b.toList then .isTrue (by cases a; cases b; cases h; rfl)
  else .isFalse fun hab => h (hab ▸ rfl)

def empty : SortedMap α := ⟨[], List.Pairwise.nil⟩

/-- Puts an entry in its place among ascending ones, instead of one of the same key. -/
def insertInto (k : String) (v : α) : List (String × α) → List (String × α)
  | [] => [(k, v)]
  | (k', v') :: rest =>
    if k < k' then (k, v) :: (k', v') :: rest
    else if k = k' then (k, v) :: rest
    else (k', v') :: insertInto k v rest

theorem mem_insertInto {k : String} {v : α} {l : List (String × α)} {e : String × α}
    (h : e ∈ insertInto k v l) : e = (k, v) ∨ e ∈ l := by
  induction l with
  | nil => exact Or.inl (by simpa [insertInto] using h)
  | cons x xs ih =>
    obtain ⟨k', v'⟩ := x
    simp only [insertInto] at h
    split at h
    · rcases List.mem_cons.1 h with h | h
      · exact Or.inl h
      · exact Or.inr h
    · split at h
      · rcases List.mem_cons.1 h with h | h
        · exact Or.inl h
        · exact Or.inr (List.mem_cons_of_mem _ h)
      · rcases List.mem_cons.1 h with h | h
        · exact Or.inr (h ▸ List.mem_cons_self)
        · rcases ih h with h | h
          · exact Or.inl h
          · exact Or.inr (List.mem_cons_of_mem _ h)

theorem ascending_insertInto (k : String) (v : α) {l : List (String × α)} (h : Ascending l) :
    Ascending (insertInto k v l) := by
  induction l with
  | nil => exact List.pairwise_singleton _ _
  | cons x xs ih =>
    obtain ⟨k', v'⟩ := x
    have hx := List.pairwise_cons.1 h
    simp only [insertInto]
    split
    · next hlt =>
      refine List.pairwise_cons.2 ⟨fun e he => ?_, h⟩
      rcases List.mem_cons.1 he with rfl | he
      · exact hlt
      · exact String.lt_trans hlt (hx.1 e he)
    · next hlt =>
      split
      · next heq =>
        subst heq
        exact List.pairwise_cons.2 ⟨hx.1, hx.2⟩
      · next hne =>
        refine List.pairwise_cons.2 ⟨fun e he => ?_, ih hx.2⟩
        rcases mem_insertInto he with rfl | he
        · rcases String.le_total k' k with hle | hle
          · exact Classical.byContradiction fun hn =>
              hne (String.le_antisymm (String.not_lt.1 hn) hle)
          · exact absurd (String.le_antisymm hle (String.not_lt.1 hlt)) hne
        · exact hx.1 e he

def insert (m : SortedMap α) (k : String) (v : α) : SortedMap α :=
  ⟨insertInto k v m.toList, ascending_insertInto k v m.ascending⟩

def get? (m : SortedMap α) (k : String) : Option α := m.toList.lookup k

def contains (m : SortedMap α) (k : String) : Bool := (m.get? k).isSome

def size (m : SortedMap α) : Nat := m.toList.length

def isEmpty (m : SortedMap α) : Bool := m.toList.isEmpty

def keys (m : SortedMap α) : List String := m.toList.map Prod.fst

/-- The map of some entries, the last of a key counting. -/
def ofList (l : List (String × α)) : SortedMap α := l.foldl (fun m e => m.insert e.1 e.2) empty

@[simp] theorem get?_empty (k : String) : (empty : SortedMap α).get? k = none := rfl

theorem lookup_insertInto (k : String) (v : α) (l : List (String × α)) (x : String) :
    (insertInto k v l).lookup x = if x = k then some v else l.lookup x := by
  induction l with
  | nil =>
    by_cases h : x = k
    · simp [insertInto, h]
    · have hb : (x == k) = false := by simp [h]
      simp [insertInto, List.lookup_cons, h, hb]
  | cons e es ih =>
    obtain ⟨k', v'⟩ := e
    simp only [insertInto]
    by_cases h : x = k
    · subst h
      split
      · simp
      · split
        · simp
        · next hne =>
          have hb : (x == k') = false := by simp [hne]
          simp only [List.lookup_cons, hb, ih]
    · have hb : (x == k) = false := by simp [h]
      split
      · simp [List.lookup_cons, hb]
      · split
        · next heq =>
          subst heq
          simp [List.lookup_cons, hb]
        · simp only [List.lookup_cons, ih, h, if_false]

theorem get?_insert (m : SortedMap α) (k : String) (v : α) (x : String) :
    (m.insert k v).get? x = if x = k then some v else m.get? x :=
  lookup_insertInto k v m.toList x

theorem lookup_eq_none_of_lt {l : List (String × α)} {k : String} (hk : ∀ e ∈ l, k < e.1) :
    l.lookup k = none := by
  induction l with
  | nil => rfl
  | cons e es ih =>
    obtain ⟨k', v'⟩ := e
    have hne : (k == k') = false := by
      have := hk (k', v') List.mem_cons_self
      simp only [beq_eq_false_iff_ne]
      rintro rfl
      exact String.lt_irrefl _ this
    simp only [List.lookup_cons, hne]
    exact ih fun e' he' => hk e' (List.mem_cons_of_mem _ he')

/-- The first key of ascending entries is the least that is found in them. -/
theorem lookup_eq_none_of_lt_head {k x : String} {v : α} {es : List (String × α)}
    (h : Ascending ((k, v) :: es)) (hx : x < k) : ((k, v) :: es).lookup x = none := by
  refine lookup_eq_none_of_lt fun e he => ?_
  rcases List.mem_cons.1 he with rfl | he
  · exact hx
  · exact String.lt_trans hx ((List.pairwise_cons.1 h).1 e he)

/-- Of ascending entries, the rest is looked up as all are, but for the first key. -/
theorem lookup_tail {k : String} {v : α} {es : List (String × α)} (h : Ascending ((k, v) :: es))
    (x : String) : es.lookup x = if x = k then none else ((k, v) :: es).lookup x := by
  by_cases hx : x = k
  · subst hx
    rw [if_pos rfl, lookup_eq_none_of_lt (List.pairwise_cons.1 h).1]
  · have hb : (x == k) = false := by simp [hx]
    rw [if_neg hx, List.lookup_cons, hb]

/-- Ascending entries are what their look-ups say. -/
theorem eq_of_lookup_eq {l r : List (String × α)} (hl : Ascending l) (hr : Ascending r)
    (h : ∀ k, l.lookup k = r.lookup k) : l = r := by
  induction l generalizing r with
  | nil =>
    cases r with
    | nil => rfl
    | cons e es =>
      obtain ⟨k, v⟩ := e
      have := h k
      simp at this
  | cons e es ih =>
    obtain ⟨k, v⟩ := e
    cases r with
    | nil =>
      have := h k
      simp at this
    | cons e' es' =>
      obtain ⟨k', v'⟩ := e'
      have hle : k ≤ k' := String.not_lt.1 fun hlt => by
        have := (h k').symm.trans (lookup_eq_none_of_lt_head hl hlt)
        simp at this
      have hge : k' ≤ k := String.not_lt.1 fun hlt => by
        have := (h k).trans (lookup_eq_none_of_lt_head hr hlt)
        simp at this
      obtain rfl : k = k' := String.le_antisymm hle hge
      obtain rfl : v = v' := by simpa using h k
      rw [ih (List.pairwise_cons.1 hl).2 (List.pairwise_cons.1 hr).2 fun x => ?_]
      rw [lookup_tail hl, lookup_tail hr, h]

/-- A map is what its look-ups say. -/
theorem ext_get? {a b : SortedMap α} (h : ∀ k, a.get? k = b.get? k) : a = b := by
  obtain ⟨l, hl⟩ := a
  obtain ⟨r, hr⟩ := b
  obtain rfl : l = r := eq_of_lookup_eq hl hr h
  rfl

theorem insertInto_of_all_lt {k : String} {v : α} {l : List (String × α)}
    (h : ∀ e ∈ l, e.1 < k) : insertInto k v l = l ++ [(k, v)] := by
  induction l with
  | nil => rfl
  | cons e es ih =>
    have he : e.1 < k := h e List.mem_cons_self
    have hn : ¬ k < e.1 := fun hlt => String.lt_irrefl _ (String.lt_trans he hlt)
    have hne : ¬ k = e.1 := by rintro rfl; exact String.lt_irrefl _ he
    simp [insertInto, hn, hne, ih fun e' he' => h e' (List.mem_cons_of_mem _ he')]

private theorem toList_foldl_insert (l : List (String × α)) (m : SortedMap α)
    (h : Ascending (m.toList ++ l)) :
    (l.foldl (fun m e => m.insert e.1 e.2) m).toList = m.toList ++ l := by
  induction l generalizing m with
  | nil => simp
  | cons e es ih =>
    have hlt : ∀ x ∈ m.toList, x.1 < e.1 := fun x hx =>
      (List.pairwise_append.1 h).2.2 x hx e List.mem_cons_self
    have hins : (m.insert e.1 e.2).toList = m.toList ++ [e] := insertInto_of_all_lt hlt
    rw [List.foldl_cons, ih]
    · rw [hins]; simp
    · rw [hins]; simpa using h

/-- Entries that are ascending already are kept as they are. -/
theorem toList_ofList {l : List (String × α)} (h : Ascending l) : (ofList l).toList = l := by
  have := toList_foldl_insert l empty (by simpa [empty] using h)
  simpa [ofList, empty] using this

theorem ofList_toList (m : SortedMap α) : ofList m.toList = m := by
  have := toList_ofList m.ascending
  cases hm : ofList m.toList
  cases m
  simp_all

end SortedMap

end OciCompose
