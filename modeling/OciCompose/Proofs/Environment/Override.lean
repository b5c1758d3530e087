import Mathlib.Data.List.Induction
import OciCompose.Proofs.Environment.Expansion

/-
  Overrides of an environment.
  `IsOverride` says entry by entry what overrides make of an environment: an entry whose key is
  overridden is replaced where it stands, all others stay as they are, and keys that are new follow in
  the order of their first mention; values are expanded by the environment as it was.
  `override_exact`: this is what is computed. So no key gets a second entry (`IsOverride.keys_eq`), and
  where no value has a dollar the same overrides change nothing any more (`IsOverride.again`).
-/

namespace OciCompose.Environment

/-! ## Keys -/

/-- The keys that entries define, with repetitions. -/
def keys (entries : List String) : List String :=
  entries.filterMap fun e => (splitEntry e).map Prod.fst

/-- The keys that entries define, each of them where it is first mentioned. -/
def mentioned (entries : List String) : List String := (keys entries).eraseDups

theorem keys_eq_map (es : List String) : keys es = (es.filterMap splitEntry).map Prod.fst :=
  List.map_filterMap.symm

theorem eraseDups_concat (l : List String) (x : String) :
    (l ++ [x]).eraseDups = if x ∈ l then l.eraseDups else l.eraseDups ++ [x] := by
  rw [List.eraseDups_append]
  by_cases h : x ∈ l <;> simp [List.removeAll, h, List.eraseDups_cons]

theorem nodup_eraseDups (l : List String) : l.eraseDups.Nodup := by
  induction l using List.reverseRecOn with
  | nil => exact List.nodup_nil
  | append_singleton l x ih =>
    rw [eraseDups_concat]
    split
    · exact ih
    · next h =>
      refine List.nodup_append.2 ⟨ih, List.nodup_cons.2 ⟨List.not_mem_nil, List.nodup_nil⟩, ?_⟩
      rintro a ha b hb rfl
      rw [List.mem_singleton.1 hb] at ha
      exact h (List.mem_eraseDups.1 ha)

/-! ## Wanted values -/

theorem lookup_cons_eq_ite (kv : String × String) (l : List (String × String)) (k : String) :
    (kv :: l).lookup k = if k = kv.1 then some kv.2 else l.lookup k := by
  rw [List.lookup_cons]
  by_cases h : k = kv.1
  · rw [if_pos h, beq_iff_eq.2 h]
  · rw [if_neg h, beq_eq_false_iff_ne.2 h]

theorem keys_put (ws : List (String × String)) (kv : String × String) :
    (put ws kv).map Prod.fst =
      if kv.1 ∈ ws.map Prod.fst then ws.map Prod.fst else ws.map Prod.fst ++ [kv.1] := by
  induction ws with
  | nil => rfl
  | cons w ws ih =>
    rw [put]
    by_cases h : w.1 = kv.1
    · simp [h]
    · rw [if_neg h, List.map_cons, ih, List.map_cons]
      by_cases hmem : kv.1 ∈ ws.map Prod.fst
      · rw [if_pos hmem, if_pos (List.mem_cons_of_mem _ hmem)]
      · rw [if_neg hmem, if_neg (List.not_mem_cons_of_ne_of_not_mem (Ne.symm h) hmem)]
        rfl

theorem lookup_put (ws : List (String × String)) (kv : String × String) (k : String) :
    (put ws kv).lookup k = if k = kv.1 then some kv.2 else ws.lookup k := by
  induction ws with
  | nil => exact lookup_cons_eq_ite kv [] k
  | cons w ws ih =>
    rw [put, lookup_cons_eq_ite w]
    by_cases h : w.1 = kv.1
    · rw [if_pos h, lookup_cons_eq_ite, h]
      split <;> rfl
    · rw [if_neg h, lookup_cons_eq_ite, ih]
      by_cases hk : k = w.1
      · rw [if_pos hk, if_neg (hk ▸ h), if_pos hk]
      · rw [if_neg hk, if_neg hk]

/-- Each key is wanted where it is first mentioned. -/
theorem keys_wanted (desired : List String) : (wanted desired).map Prod.fst = mentioned desired := by
  rw [wanted, mentioned, keys_eq_map]
  -- from the last override, which is put in behind all before it or is one of them already
  induction desired.filterMap splitEntry using List.reverseRecOn with
  | nil => rfl
  | append_singleton ps p ih =>
    rw [List.foldl_concat, keys_put, ih, List.map_append, List.map_singleton, eraseDups_concat]
    simp only [List.mem_eraseDups]

/-- The value that is wanted is the last one. -/
theorem lookup_wanted (desired : List String) (k : String) :
    (wanted desired).lookup k = lookup desired k := by
  rw [wanted, lookup, definitions]
  induction desired.filterMap splitEntry using List.reverseRecOn with
  | nil => rfl
  | append_singleton ps p ih =>
    rw [List.foldl_concat, lookup_put, ih, List.reverse_append, List.reverse_singleton,
      List.singleton_append, lookup_cons_eq_ite]

theorem lastValue_of_mem_wanted {desired : List String} {k v : String}
    (h : (k, v) ∈ wanted desired) : LastValue k v desired := by
  have hnodup : ((wanted desired).map Prod.fst).Nodup := by
    rw [keys_wanted]
    exact nodup_eraseDups _
  rw [← lookup_eq_some_iff, ← lookup_wanted]
  exact (lookup_eq_some hnodup).2 h

/-! ## Overrides -/

/-- The entry that overrides make for a key: its last value, expanded by the environment as it is. -/
inductive Sets (existing desired : List String) (k : String) : String → Prop
  | intro {v : String} (last : LastValue k v desired) :
      Sets existing desired k (k ++ "=" ++ expand (lookup existing) v)

/-- What becomes of an entry: its key is overridden, or it stays. -/
inductive Becomes (existing desired : List String) : String → String → Prop
  | replaced {e k v out : String} (defines : Defines e k v) (sets : Sets existing desired k out) :
      Becomes existing desired e out
  | kept {e : String} (not_wanted : ∀ k v, Defines e k v → ∀ w, ¬ LastValue k w desired) :
      Becomes existing desired e e

/-- What overrides make of an environment: what becomes of each of its entries, and behind them the
    entries of the keys that none of them has. -/
inductive IsOverride (existing desired : List String) : List String → Prop
  | intro {kept added : List String} (becomes : List.Forall₂ (Becomes existing desired) existing kept)
      (sets : List.Forall₂ (Sets existing desired)
        ((mentioned desired).filter fun k => k ∉ keys existing) added) :
      IsOverride existing desired (kept ++ added)

variable {existing desired out : List String}

theorem Sets.unique {k a b : String} (h : Sets existing desired k a)
    (h' : Sets existing desired k b) : a = b := by
  cases h with
  | intro last =>
    cases h' with
    | intro last' => rw [last.unique last']

theorem Becomes.unique {e a b : String} (h : Becomes existing desired e a)
    (h' : Becomes existing desired e b) : a = b := by
  have hclash : ∀ {k v out : String}, Defines e k v → Sets existing desired k out →
      ¬ ∀ k v, Defines e k v → ∀ w, ¬ LastValue k w desired := by
    rintro k v _ hdefines ⟨last⟩ hnot
    exact hnot k v hdefines _ last
  cases h with
  | replaced defines sets =>
    cases h' with
    | replaced defines' sets' =>
      obtain ⟨rfl, -⟩ := defines.unique defines'
      exact sets.unique sets'
    | kept not_wanted => exact (hclash defines sets not_wanted).elim
  | kept not_wanted =>
    cases h' with
    | replaced defines sets => exact (hclash defines sets not_wanted).elim
    | kept _ => rfl

theorem IsOverride.unique {out' : List String} (h : IsOverride existing desired out)
    (h' : IsOverride existing desired out') : out = out' := by
  cases h with
  | @intro kept added becomes sets =>
  cases h' with
  | @intro kept' added' becomes' sets' =>
  have hbecomes : Relator.RightUnique (Becomes existing desired) := fun _ _ _ => Becomes.unique
  have hsets : Relator.RightUnique (Sets existing desired) := fun _ _ _ => Sets.unique
  rw [List.right_unique_forall₂' hbecomes becomes becomes',
    List.right_unique_forall₂' hsets sets sets']

theorem isOverride_override (existing desired : List String) :
    IsOverride existing desired (override existing desired) := by
  have hset : ∀ {k v : String}, LastValue k v desired →
      Sets existing desired k (joinEntry k (expand (lookup existing) v)) := fun last => .intro last
  refine .intro ?_ ?_
  · rw [List.forall₂_map_right_iff, List.forall₂_same]
    intro e _
    cases hsplit : splitEntry e with
    | none =>
      refine .kept fun k v hdefines => ?_
      rw [splitEntry_eq_some_iff.2 hdefines] at hsplit
      cases hsplit
    | some kv =>
      obtain ⟨k, v⟩ := kv
      have hdefines := splitEntry_eq_some_iff.1 hsplit
      rw [Option.bind_some, lookup_wanted]
      cases hlookup : lookup desired k with
      | some w => exact .replaced hdefines (hset (lookup_eq_some_iff.1 hlookup))
      | none =>
        refine .kept fun k' v' hdefines' w hlast => ?_
        obtain ⟨rfl, -⟩ := hdefines.unique hdefines'
        rw [lookup_eq_some_iff.2 hlast] at hlookup
        cases hlookup
  · rw [List.forall₂_map_right_iff, ← keys_wanted, List.filter_map, List.forall₂_map_left_iff,
      keys_eq_map]
    simp only [Function.comp_def, List.contains_eq_mem, decide_not]
    rw [List.forall₂_same]
    rintro ⟨k, v⟩ hmem
    exact hset (lastValue_of_mem_wanted (List.mem_filter.1 hmem).1)

theorem Sets.defines {k e : String} (h : Sets existing desired k e) : ∃ v, Defines e k v := by
  obtain ⟨last⟩ := h
  obtain ⟨_, -, hdefines⟩ := last.exists_defines
  exact ⟨_, hdefines.written _⟩

theorem keys_of_becomes {es es' : List String}
    (h : List.Forall₂ (Becomes existing desired) es es') : keys es' = keys es := by
  induction h with
  | nil => rfl
  | @cons e e' es es' hbecomes _ ih =>
    have hkey : (splitEntry e').map Prod.fst = (splitEntry e).map Prod.fst := by
      cases hbecomes with
      | kept _ => rfl
      | replaced defines sets =>
        obtain ⟨w, hdefines⟩ := sets.defines
        rw [splitEntry_eq_some_iff.2 hdefines, splitEntry_eq_some_iff.2 defines]
        rfl
    unfold keys at ih ⊢
    rw [List.filterMap_cons, List.filterMap_cons, hkey, ih]

theorem keys_of_sets {ks es : List String} (h : List.Forall₂ (Sets existing desired) ks es) :
    keys es = ks := by
  induction h with
  | nil => rfl
  | @cons k e ks es hsets _ ih =>
    obtain ⟨v, hdefines⟩ := hsets.defines
    unfold keys at ih ⊢
    rw [List.filterMap_cons, splitEntry_eq_some_iff.2 hdefines, ih]
    rfl

/-- The keys stay as they are, and the new ones come behind them. -/
theorem IsOverride.keys_eq (h : IsOverride existing desired out) :
    keys out = keys existing ++ (mentioned desired).filter fun k => k ∉ keys existing := by
  obtain ⟨becomes, sets⟩ := h
  have happend : ∀ a b : List String, keys (a ++ b) = keys a ++ keys b :=
    fun a b => List.filterMap_append
  rw [happend, keys_of_becomes becomes, keys_of_sets sets]

theorem IsOverride.nodup_keys (h : IsOverride existing desired out) (hkeys : (keys existing).Nodup) :
    (keys out).Nodup := by
  rw [h.keys_eq]
  refine List.nodup_append.2 ⟨hkeys, (nodup_eraseDups _).filter _, ?_⟩
  rintro a ha b hb rfl
  exact absurd ha (by simpa using (List.mem_filter.1 hb).2)

/-! ## Overrides without placeholders -/

theorem expandFrom_of_not_mem {look : String → Option String} {cs : List Char} (h : '$' ∉ cs) :
    expandFrom look 0 cs = cs := by
  induction cs with
  | nil => rfl
  | cons c cs ih =>
    rw [List.mem_cons, not_or] at h
    rw [expandFrom, if_neg (Ne.symm h.1), ih h.2]

theorem expand_of_not_mem {look : String → Option String} {v : String} (h : '$' ∉ v.toList) :
    expand look v = v := by
  rw [expand, expandFrom_of_not_mem h, String.ofList_toList]

/-- No value that is wanted has a dollar in it. -/
def IsPlain (desired : List String) : Prop := ∀ k v, LastValue k v desired → '$' ∉ v.toList

/-- A plain value is the same in every environment. -/
theorem Sets.elsewhere {k e : String} (h : Sets existing desired k e) (hplain : IsPlain desired)
    (other : List String) : Sets other desired k e := by
  obtain ⟨last⟩ := h
  have hv := hplain k _ last
  have hother : Sets other desired k _ := .intro last
  rwa [expand_of_not_mem hv] at hother ⊢

/-- An entry that was set is set again to the same. -/
theorem Sets.settled {k e : String} (h : Sets existing desired k e) (hplain : IsPlain desired)
    (other : List String) : Becomes other desired e e := by
  obtain ⟨v, hdefines⟩ := h.defines
  exact .replaced hdefines (h.elsewhere hplain other)

theorem Becomes.settled {e e' : String} (h : Becomes existing desired e e') (hplain : IsPlain desired)
    (other : List String) : Becomes other desired e' e' := by
  cases h with
  | replaced _ sets => exact sets.settled hplain other
  | kept not_wanted => exact .kept not_wanted

theorem forall₂_self {R S : String → String → Prop} (hRS : ∀ a b, R a b → S b b)
    {l l' : List String} (h : List.Forall₂ R l l') : List.Forall₂ S l' l' := by
  induction h with
  | nil => exact .nil
  | cons hab _ ih => exact .cons (hRS _ _ hab) ih

/-- No key is new any more, and what was set is set to the same. -/
theorem IsOverride.again (h : IsOverride existing desired out) (hplain : IsPlain desired) :
    IsOverride out desired out := by
  have hbecomes : List.Forall₂ (Becomes out desired) out out := by
    cases h with
    | @intro kept added becomes sets =>
      exact List.rel_append (forall₂_self (fun _ _ h => h.settled hplain _) becomes)
        (forall₂_self (fun _ _ h => h.settled hplain _) sets)
  have hnone : ((mentioned desired).filter fun k => k ∉ keys out) = [] := by
    rw [List.filter_eq_nil_iff]
    intro k hk hnot
    refine of_decide_eq_true hnot ?_
    rw [h.keys_eq, List.mem_append]
    by_cases hmem : k ∈ keys existing
    · exact .inl hmem
    · exact .inr (List.mem_filter.2 ⟨hk, decide_eq_true hmem⟩)
  have hsets : List.Forall₂ (Sets out desired)
      ((mentioned desired).filter fun k => k ∉ keys out) [] := by
    rw [hnone]
    exact .nil
  have hagain : IsOverride out desired (out ++ []) := .intro hbecomes hsets
  rwa [List.append_nil] at hagain

/-- Overrides give exactly the environment that `IsOverride` describes. So an environment that has each
    key once keeps it once; and where no wanted value has a dollar, the same overrides have no effect
    after the first time. -/
theorem override_exact (existing desired : List String) :
    (∀ out, IsOverride existing desired out ↔ out = override existing desired) ∧
    ((keys existing).Nodup → (keys (override existing desired)).Nodup) ∧
    (IsPlain desired → override (override existing desired) desired = override existing desired) := by
  have h := isOverride_override existing desired
  refine ⟨fun out => ⟨fun hout => hout.unique h, ?_⟩, h.nodup_keys, fun hplain => ?_⟩
  · rintro rfl
    exact h
  · exact (isOverride_override _ _).unique (h.again hplain)

/-- Values have no dollar where the entries have none. -/
theorem isPlain_of_forall_mem (h : ∀ e ∈ desired, '$' ∉ e.toList) : IsPlain desired := by
  intro k v hlast hmem
  obtain ⟨e, he, hdefines⟩ := hlast.exists_defines
  refine h e he ?_
  rw [hdefines.eq, String.toList_append]
  exact List.mem_append_right _ hmem

/-- One key is replaced and one is new, the last of its values counts, and all is as it should be after
    the first time. -/
theorem override_exact_twice :
    IsOverride ["A=1", "=x", "B=$A"] ["D=4", "A=3", "D=5"] ["A=3", "=x", "B=$A", "D=5"] ∧
    (keys ["A=3", "=x", "B=$A", "D=5"]).Nodup ∧
    override ["A=3", "=x", "B=$A", "D=5"] ["D=4", "A=3", "D=5"] = ["A=3", "=x", "B=$A", "D=5"] := by
  have hout : override ["A=1", "=x", "B=$A"] ["D=4", "A=3", "D=5"] = ["A=3", "=x", "B=$A", "D=5"] := by
    decide
  obtain ⟨hexact, hnodup, hagain⟩ := override_exact ["A=1", "=x", "B=$A"] ["D=4", "A=3", "D=5"]
  rw [hout] at hexact hnodup hagain
  exact ⟨(hexact _).2 rfl, hnodup (by decide), hagain (isPlain_of_forall_mem (by decide))⟩

/-- Keys that are there twice are replaced twice, and entries without a key pass. -/
example : override ["A=1", "=x", "A=2", "C"] ["D=$A", "A=3", "=y", "A=$A$A", "D=4$\x7bPATH\x7d"] =
    ["A=22", "=x", "A=22", "C", "D=4/usr/bin"] := by decide

end OciCompose.Environment
