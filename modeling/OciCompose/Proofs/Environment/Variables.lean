import OciCompose.Config
import OciCompose.Proofs.Environment.Override

/-
  What configured variables come to in an environment.
  `IsOverride.lookup_eq`: a key has its last wanted value, expanded by the environment as it was, or
  else the value that it had. Variables are wanted as texts, which are cut at their first equals sign,
  so one whose name has an equals sign gives another key a value (`EnvVar.Gives`). `carries_override`:
  what becomes of each key, by the last variable that gives it a value.
-/

namespace OciCompose

namespace Environment

variable {existing desired : List String}

/-! ## Keys after overrides -/

theorem lookup_append (a b : List String) (k : String) :
    lookup (a ++ b) k = (lookup b k).or (lookup a k) := by
  unfold lookup definitions
  rw [List.filterMap_append, List.reverse_append, List.lookup_append]

theorem Sets.lookup_eq {k e : String} (h : Sets existing desired k e) (k' : String) :
    (splitEntry e).toList.lookup k' =
      if k' = k then (lookup desired k).map (expand (lookup existing)) else none := by
  obtain ⟨last⟩ := h
  obtain ⟨_, -, hdefines⟩ := last.exists_defines
  rw [splitEntry_eq_some_iff.2 (hdefines.written _), Option.toList_some, lookup_cons_eq_ite,
    lookup_eq_some_iff.2 last]
  rfl

/-- An entry that had a value for a key has the wanted one, or keeps its own. -/
theorem Becomes.lookup_eq {e e' : String} (h : Becomes existing desired e e') (k : String) :
    (splitEntry e').toList.lookup k =
      ((splitEntry e).toList.lookup k).map
        ((lookup desired k).map (expand (lookup existing))).getD := by
  cases h with
  | @replaced key _ _ defines sets =>
    rw [sets.lookup_eq, splitEntry_eq_some_iff.2 defines, Option.toList_some, lookup_cons_eq_ite]
    obtain ⟨last⟩ := sets
    by_cases hk : k = key
    · subst hk
      rw [if_pos rfl, if_pos rfl, lookup_eq_some_iff.2 last]
      rfl
    · rw [if_neg hk, if_neg hk]
      rfl
  | kept not_wanted =>
    cases hlookup : (splitEntry e).toList.lookup k with
    | none => rfl
    | some v =>
      have hnone : lookup desired k = none := Option.eq_none_iff_forall_ne_some.2 fun w hw =>
        not_wanted k v (lookup_splitEntry.1 hlookup) w (lookup_eq_some_iff.1 hw)
      rw [hnone]
      rfl

theorem lookup_of_becomes {es es' : List String}
    (h : List.Forall₂ (Becomes existing desired) es es') (k : String) :
    lookup es' k =
      (lookup es k).map ((lookup desired k).map (expand (lookup existing))).getD := by
  induction h with
  | nil => rfl
  | cons hbecomes _ ih => rw [lookup_cons, lookup_cons, ih, hbecomes.lookup_eq, Option.map_or]

theorem lookup_of_sets {ks es : List String} (h : List.Forall₂ (Sets existing desired) ks es)
    (k : String) :
    lookup es k =
      if k ∈ ks then (lookup desired k).map (expand (lookup existing)) else none := by
  induction h with
  | nil => rfl
  | @cons key e ks es hsets _ ih =>
    rw [lookup_cons, ih, hsets.lookup_eq]
    by_cases hk : k = key
    · subst hk
      split <;> simp
    · simp [hk]

theorem mem_keys_iff {es : List String} {k : String} : k ∈ keys es ↔ lookup es k ≠ none := by
  rw [ne_eq, lookup_eq_none_iff]
  simp [keys, ← splitEntry_eq_some_iff]

/-- The value of a key is the one that is wanted last, or else the one that it had. -/
theorem IsOverride.lookup_eq {out : List String} (h : IsOverride existing desired out) (k : String) :
    lookup out k =
      ((lookup desired k).map (expand (lookup existing))).or (lookup existing k) := by
  cases h with
  | @intro kept added becomes sets =>
    have hnew : k ∈ (mentioned desired).filter (fun k => k ∉ keys existing) ↔
        lookup desired k ≠ none ∧ lookup existing k = none := by
      rw [List.mem_filter, mentioned, List.mem_eraseDups, mem_keys_iff, decide_eq_true_iff,
        mem_keys_iff, not_not]
    rw [lookup_append, lookup_of_becomes becomes, lookup_of_sets sets]
    cases hold : lookup existing k with
    | some v =>
      have hmem : k ∉ (mentioned desired).filter fun k => k ∉ keys existing := fun hmem => by
        cases hold.symm.trans (hnew.1 hmem).2
      rw [if_neg hmem, Option.none_or]
      cases lookup desired k <;> rfl
    | none =>
      cases hwanted : lookup desired k with
      | none => split <;> rfl
      | some w =>
        rw [if_pos (hnew.2 ⟨hwanted ▸ Option.some_ne_none w, hold⟩)]
        rfl

end Environment

/-! ## Configured variables -/

open Environment

/-- The key that a variable gives a value, and the value: its name, if that has no equals sign, and else
    what stands before the first one, with all that comes after it. -/
inductive EnvVar.Gives (v : EnvVar) : String → String → Prop
  | whole (ne_empty : v.name ≠ "") (equals_not_mem : '=' ∉ v.name.toList) : Gives v v.name v.value
  | cut {k rest : String} (name : v.name = k ++ "=" ++ rest) (ne_empty : k ≠ "")
      (equals_not_mem : '=' ∉ k.toList) : Gives v k (rest ++ "=" ++ v.value)

namespace EnvVar

/-- Variables as they are wanted; those without a name are passed over. -/
def entries (env : List EnvVar) : List String :=
  (env.filter fun v => !v.name.isEmpty).map fun v => v.name ++ "=" ++ v.value

theorem Gives.name_ne_empty {v : EnvVar} {k x : String} (h : v.Gives k x) : v.name ≠ "" := by
  cases h with
  | whole ne_empty _ => exact ne_empty
  | cut name ne_empty _ =>
    rw [name]
    simp

theorem Gives.equals_not_mem {v : EnvVar} {k x : String} (h : v.Gives k x) : '=' ∉ k.toList := by
  cases h <;> assumption

/-- A text is cut at its first equals sign: the one between two parts, or one in the first part. -/
theorem cut_cases {a b k x : List Char} (h : a ++ '=' :: b = k ++ '=' :: x) (hk : '=' ∉ k) :
    k = a ∧ x = b ∨ ∃ rest, a = k ++ '=' :: rest ∧ x = rest ++ '=' :: b := by
  rcases List.append_eq_append_iff.1 h with ⟨t, rfl, ht⟩ | ⟨t, rfl, ht⟩
  · cases t with
    | nil => exact .inl ⟨List.append_nil a, (List.cons.inj ht).2.symm⟩
    | cons c t =>
      obtain ⟨rfl, -⟩ := List.cons.inj ht
      exact absurd (List.mem_append_right _ List.mem_cons_self) hk
  · cases t with
    | nil => exact .inl ⟨(List.append_nil k).symm, (List.cons.inj ht).2⟩
    | cons c t =>
      obtain ⟨rfl, rfl⟩ := List.cons.inj ht
      exact .inr ⟨t, rfl, rfl⟩

theorem defines_iff_gives {v : EnvVar} {k x : String} :
    Defines (v.name ++ "=" ++ v.value) k x ↔ v.Gives k x := by
  constructor
  · intro h
    have hequals := h.equals_not_mem
    have hlists : v.name.toList ++ '=' :: v.value.toList = k.toList ++ '=' :: x.toList := by
      simpa using congrArg String.toList h.eq
    rcases cut_cases hlists hequals with ⟨hk, hx⟩ | ⟨rest, hname, hx⟩
    · obtain rfl := String.toList_inj.1 hk
      obtain rfl := String.toList_inj.1 hx
      exact .whole h.ne_empty hequals
    · have hvalue : x = String.ofList rest ++ "=" ++ v.value := by
        rw [← String.toList_inj, hx]
        simp
      have hcut : v.name = k ++ "=" ++ String.ofList rest := by
        rw [← String.toList_inj, hname]
        simp
      rw [hvalue]
      exact .cut hcut h.ne_empty hequals
  · rintro (⟨hne, hequals⟩ | ⟨hname, hne, hequals⟩)
    · exact ⟨rfl, hne, hequals⟩
    · refine ⟨?_, hne, hequals⟩
      simp only [hname, String.append_assoc]

theorem mem_entries {env : List EnvVar} {e : String} :
    e ∈ entries env ↔ ∃ v ∈ env, v.name ≠ "" ∧ e = v.name ++ "=" ++ v.value := by
  unfold entries
  simp only [List.mem_map, List.mem_filter, Bool.not_eq_true', String.isEmpty_eq_false_iff]
  constructor
  · rintro ⟨v, ⟨hv, hname⟩, rfl⟩
    exact ⟨v, hv, hname, rfl⟩
  · rintro ⟨v, hv, hname, rfl⟩
    exact ⟨v, ⟨hv, hname⟩, rfl⟩

theorem lookup_entries_eq_none_iff {env : List EnvVar} {k : String} :
    lookup (entries env) k = none ↔ ∀ v ∈ env, ∀ x, ¬ v.Gives k x := by
  rw [lookup_eq_none_iff]
  constructor
  · intro h v hv x hgives
    exact h _ (mem_entries.2 ⟨v, hv, hgives.name_ne_empty, rfl⟩) x (defines_iff_gives.2 hgives)
  · intro h e he x hdefines
    obtain ⟨v, hv, -, rfl⟩ := mem_entries.1 he
    exact h v hv x (defines_iff_gives.1 hdefines)

/-- The last variable that gives a key a value decides. -/
theorem lookup_entries {before after : List EnvVar} {v : EnvVar} {k x : String} (h : v.Gives k x)
    (hlast : ∀ later ∈ after, ∀ y, ¬ later.Gives k y) :
    lookup (entries (before ++ v :: after)) k = some x := by
  have hname := h.name_ne_empty
  have hsplit : entries (before ++ v :: after) =
      entries before ++ (v.name ++ "=" ++ v.value) :: entries after := by
    unfold entries
    rw [List.filter_append, List.map_append, List.filter_cons_of_pos (by simpa using hname),
      List.map_cons]
  rw [hsplit, lookup_append, lookup_cons, lookup_entries_eq_none_iff.2 hlast, Option.none_or,
    lookup_splitEntry.2 (defines_iff_gives.2 h)]
  rfl

end EnvVar

/-- What variables come to between an environment and the one that they are applied to: a key has the
    value that the last variable for it gives, expanded by the environment before, and keys that none
    gives a value keep theirs. -/
structure Carries (env : List EnvVar) (before after : List String) : Prop where
  set : ∀ first v rest k x, env = first ++ v :: rest → v.Gives k x →
    (∀ later ∈ rest, ∀ y, ¬ later.Gives k y) → lookup after k = some (expand (lookup before) x)
  kept : ∀ k, (∀ v ∈ env, ∀ x, ¬ v.Gives k x) → lookup after k = lookup before k

theorem carries_override (env : List EnvVar) (existing : List String) :
    Carries env existing (override existing (EnvVar.entries env)) := by
  have hlookup := (isOverride_override existing (EnvVar.entries env)).lookup_eq
  constructor
  case set =>
    rintro first v rest k x rfl hgives hlast
    rw [hlookup, EnvVar.lookup_entries hgives hlast]
    rfl
  case kept =>
    intro k hnone
    rw [hlookup, EnvVar.lookup_entries_eq_none_iff.2 hnone]
    rfl

/-- A variable has its value if no later one has its name, alone or with an equals sign after it. -/
theorem Carries.named {env before after : List EnvVar} {v : EnvVar} {old new : List String}
    (h : Carries env old new) (hsplit : env = before ++ v :: after) (hname : v.name ≠ "")
    (hequals : '=' ∉ v.name.toList)
    (hlater : ∀ later ∈ after, later.name ≠ v.name ∧ ∀ rest, later.name ≠ v.name ++ "=" ++ rest) :
    lookup new v.name = some (expand (lookup old) v.value) := by
  refine h.set before v after v.name v.value hsplit (.whole hname hequals) fun later hmem y hgives => ?_
  obtain ⟨hne, hnot⟩ := hlater later hmem
  generalize v.name = k at hgives hne hnot
  cases hgives with
  | whole _ _ => exact hne rfl
  | cut name _ _ => exact hnot _ name

/-- No entry defines a key with an equals sign. -/
theorem Environment.lookup_of_equals_mem {es : List String} {k : String} (h : '=' ∈ k.toList) :
    lookup es k = none :=
  lookup_eq_none_iff.2 fun _ _ _ hdefines => hdefines.equals_not_mem h

end OciCompose
