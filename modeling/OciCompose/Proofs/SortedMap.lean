import Mathlib.Algebra.GroupWithZero.Nat
import OciCompose.SortedMap

/-
  What is in sorted maps.
  `mem_toList`: the entries are what look-ups find. `Ascending.eq`: ascending lists of the same entries
  are equal, so the order of insertion leaves no trace.
-/

namespace OciCompose

universe u
variable {α : Type u}

/-- Where each key is there once, a look-up finds what is in the list. -/
theorem lookup_eq_some {l : List (String × α)} (h : (l.map Prod.fst).Nodup) {k : String} {v : α} :
    l.lookup k = some v ↔ (k, v) ∈ l := by
  induction l with
  | nil => simp
  | cons e rest ih =>
    obtain ⟨k', v'⟩ := e
    rw [List.map_cons, List.nodup_cons] at h
    rw [List.lookup_cons, List.mem_cons, Prod.mk.injEq]
    by_cases hk : k = k'
    · subst hk
      have hnot : (k, v) ∉ rest := fun hmem => h.1 (List.mem_map.2 ⟨_, hmem, rfl⟩)
      simp [hnot, eq_comm]
    · have hb : (k == k') = false := beq_eq_false_iff_ne.2 hk
      simp [hb, hk, ih h.2]

/-- So it makes no difference in which order the list has it. -/
theorem lookup_perm {l l' : List (String × α)} (h : (l.map Prod.fst).Nodup) (hperm : l.Perm l')
    (k : String) : l.lookup k = l'.lookup k :=
  Option.ext fun v => by
    rw [lookup_eq_some h, lookup_eq_some ((hperm.map Prod.fst).nodup_iff.1 h), hperm.mem_iff]

theorem lookup_map {β : Type u} (f : α → β) (l : List (String × α)) (k : String) :
    (l.map fun m => (m.1, f m.2)).lookup k = (l.lookup k).map f := by
  induction l with
  | nil => rfl
  | cons m l ih =>
    rw [List.map_cons, List.lookup_cons, List.lookup_cons, ih]
    cases k == m.1 <;> rfl

theorem lookup_of_not_mem {l : List (String × α)} {k : String}
    (h : k ∉ l.map Prod.fst) : l.lookup k = none := by
  rw [List.lookup_eq_none_iff]
  intro m hm
  rw [bne_iff_ne]
  rintro rfl
  exact h (List.mem_map_of_mem hm)

/-- A look-up of a key is not concerned with a filter that lets the key through. -/
theorem lookup_filter {p : String → Bool} {k : String} (h : p k = true)
    (l : List (String × α)) : (l.filter fun m => p m.1).lookup k = l.lookup k := by
  induction l with
  | nil => rfl
  | cons m l ih =>
    rw [List.filter_cons, List.lookup_cons]
    split
    · rw [List.lookup_cons, ih]
    · next hm =>
      have hb : (k == m.1) = false := beq_eq_false_iff_ne.2 fun heq => hm (heq ▸ h)
      rw [ih, hb]

theorem lookup_map_some (ts : List (String × α)) (k : String) :
    (ts.map fun t => (some t.1, t.2)).lookup (some k) = ts.lookup k := by
  induction ts with
  | nil => rfl
  | cons t ts ih =>
    rw [List.map_cons, List.lookup_cons, List.lookup_cons, ih]
    rfl

/-- Where a key is there once at most, its first entry is its last. -/
theorem lookup_reverse {l : List (String × α)} {k : String}
    (h : (l.map Prod.fst).count k ≤ 1) : l.reverse.lookup k = l.lookup k := by
  induction l with
  | nil => rfl
  | cons e l ih =>
    obtain ⟨name, v⟩ := e
    rw [List.map_cons, List.count_cons] at h
    rw [List.reverse_cons, List.lookup_append, List.lookup_cons, List.lookup_cons]
    by_cases hk : k = name
    · subst hk
      have hnot : k ∉ l.reverse.map Prod.fst := by
        rw [← List.count_eq_zero, List.map_reverse, List.count_reverse]
        simpa using h
      rw [lookup_of_not_mem hnot, beq_self_eq_true]
      rfl
    · have hb : (k == name) = false := beq_eq_false_iff_ne.2 hk
      rw [ih (Nat.le_trans (Nat.le_add_right _ _) h), hb]
      cases l.lookup k <;> rfl

theorem Ascending.nodup {l : List (String × α)} (h : Ascending l) : (l.map Prod.fst).Nodup := by
  refine List.pairwise_map.2 (h.imp fun hlt heq => ?_)
  rw [heq] at hlt
  exact String.lt_irrefl _ hlt

/-- Ascending lists of the same entries are equal. -/
theorem Ascending.eq {l l' : List (String × α)} (h : Ascending l) (h' : Ascending l')
    (hmem : ∀ e, e ∈ l ↔ e ∈ l') : l = l' := by
  have hmap : (⟨l, h⟩ : SortedMap α) = ⟨l', h'⟩ := SortedMap.ext_get? fun k =>
    Option.ext fun v => by
      show l.lookup k = some v ↔ l'.lookup k = some v
      rw [lookup_eq_some h.nodup, lookup_eq_some h'.nodup, hmem]
  exact congrArg SortedMap.toList hmap

namespace SortedMap

/-- Values that are changed one by one may as well be changed before they are inserted. -/
theorem map_insertInto {β : Type u} (f : α → β) (k : String) (v : α) (l : List (String × α)) :
    (insertInto k v l).map (fun e => (e.1, f e.2)) =
      insertInto k (f v) (l.map fun e => (e.1, f e.2)) := by
  induction l with
  | nil => rfl
  | cons e rest ih =>
    rw [insertInto, List.map_cons, insertInto, ← ih]
    split
    · rfl
    · split <;> rfl

/-- An insertion adds at most what it puts in. -/
theorem sum_insertInto_le (f : α → Nat) (k : String) (v : α) (l : List (String × α)) :
    ((insertInto k v l).map fun e => f e.2).sum ≤ (l.map fun e => f e.2).sum + f v := by
  induction l with
  | nil => exact Nat.le_of_eq (Nat.add_comm _ _)
  | cons e rest ih =>
    rw [insertInto]
    split
    · rw [List.map_cons, List.sum_cons]
      exact Nat.le_of_eq (Nat.add_comm _ _)
    · split <;> simp only [List.map_cons, List.sum_cons] <;> omega

theorem length_insertInto_le (k : String) (v : α) (l : List (String × α)) :
    (insertInto k v l).length ≤ l.length + 1 := by
  have h := sum_insertInto_le (fun _ => 1) k v l
  rwa [List.map_const', List.map_const', List.sum_replicate_nat, List.sum_replicate_nat, Nat.mul_one,
    Nat.mul_one] at h

theorem mem_toList {m : SortedMap α} {k : String} {v : α} :
    (k, v) ∈ m.toList ↔ m.get? k = some v := (lookup_eq_some m.ascending.nodup).symm

private theorem get?_foldl_insert (l : List (String × α)) (m : SortedMap α) (k : String) :
    (l.foldl (fun m e => m.insert e.1 e.2) m).get? k = (l.reverse.lookup k).or (m.get? k) := by
  induction l generalizing m with
  | nil => rfl
  | cons e rest ih =>
    rw [List.foldl_cons, ih, get?_insert, List.reverse_cons, List.lookup_append, Option.or_assoc]
    congr 1
    obtain ⟨name, v⟩ := e
    rw [List.lookup_cons]
    by_cases hk : k = name
    · simp [hk]
    · have hb : (k == name) = false := beq_eq_false_iff_ne.2 hk
      simp [hk, hb]

/-- The last entry of a key is the one that is kept. -/
theorem get?_ofList_eq_lookup (l : List (String × α)) (k : String) :
    (ofList l).get? k = l.reverse.lookup k := by
  unfold ofList
  rw [get?_foldl_insert, get?_empty, Option.or_none]

/-- What is under a key is what was put in last under it. -/
theorem get?_ofList_iff_split {l : List (String × α)} {k : String} {v : α} :
    (ofList l).get? k = some v ↔
      ∃ before after, l = before ++ (k, v) :: after ∧ ∀ e ∈ after, e.1 ≠ k := by
  rw [get?_ofList_eq_lookup, List.lookup_eq_some_iff]
  constructor
  · rintro ⟨late, early, hsplit, hlate⟩
    refine ⟨early.reverse, late.reverse, ?_, fun e he => ?_⟩
    · rw [← List.reverse_reverse l, hsplit]
      simp
    · exact (bne_iff_ne.1 (hlate e (List.mem_reverse.1 he))).symm
  · rintro ⟨before, after, rfl, hafter⟩
    refine ⟨after.reverse, before.reverse, by simp, fun e he => ?_⟩
    exact bne_iff_ne.2 (hafter e (List.mem_reverse.1 he)).symm

theorem mem_of_mem_ofList {l : List (String × α)} {e : String × α} (h : e ∈ (ofList l).toList) :
    e ∈ l := by
  obtain ⟨before, after, rfl, -⟩ := get?_ofList_iff_split.1 (mem_toList.1 h)
  exact List.mem_append_right _ List.mem_cons_self

theorem mem_keys_ofList {l : List (String × α)} {k : String} :
    k ∈ (ofList l).keys ↔ k ∈ l.map Prod.fst := by
  constructor
  · intro h
    obtain ⟨e, he, rfl⟩ := List.mem_map.1 h
    exact List.mem_map_of_mem (mem_of_mem_ofList he)
  · intro h
    refine Classical.byContradiction fun hnot => ?_
    have hnone : (ofList l).get? k = none := lookup_of_not_mem hnot
    rw [get?_ofList_eq_lookup, List.lookup_eq_none_iff] at hnone
    obtain ⟨e, he, rfl⟩ := List.mem_map.1 h
    exact bne_iff_ne.1 (hnone e (List.mem_reverse.2 he)) rfl

/-- Where each key is there once, the map of some entries has them all. -/
theorem get?_ofList {l : List (String × α)} (h : (l.map Prod.fst).Nodup) {k : String} {v : α} :
    (ofList l).get? k = some v ↔ (k, v) ∈ l := by
  have hreverse : (l.reverse.map Prod.fst).Nodup := (l.reverse_perm.map Prod.fst).nodup_iff.2 h
  rw [get?_ofList_eq_lookup, lookup_eq_some hreverse, List.mem_reverse]

/-- A sum over the values, after an insertion. -/
theorem sum_insertInto (f : α → UInt64) {l : List (String × α)} (h : Ascending l) (k : String)
    (v : α) :
    (insertInto k v l).foldr (fun e total => f e.2 + total) 0 =
      l.foldr (fun e total => f e.2 + total) 0 + f v - (l.lookup k).elim 0 f := by
  induction l with
  | nil => simp [insertInto]
  | cons e rest ih =>
    obtain ⟨k', v'⟩ := e
    have hrest := List.pairwise_cons.1 h
    rw [insertInto]
    split
    · next hlt =>
      rw [lookup_eq_none_of_lt_head h hlt]
      simp only [List.foldr_cons, Option.elim_none]
      grind
    · split
      · next heq =>
        subst heq
        rw [List.lookup_cons_self]
        simp only [List.foldr_cons, Option.elim_some]
        grind
      · next hne =>
        have hb : (k == k') = false := beq_eq_false_iff_ne.2 hne
        rw [List.lookup_cons, hb]
        simp only [List.foldr_cons, ih hrest.2]
        grind

end SortedMap

end OciCompose
