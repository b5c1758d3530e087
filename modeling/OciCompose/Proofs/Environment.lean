import OciCompose.Environment
import OciCompose.Proofs.SortedMap

/-
  What the entries of an environment define.
  An entry defines a key if there is one before its first equals sign; all else is passed over.
  A key that is defined again has its last value: `lookup_eq_some_iff`, `lookup_eq_none_iff`.
-/

namespace OciCompose.Environment

/-- An entry gives a key a value. -/
structure Defines (entry k v : String) : Prop where
  eq : entry = k ++ "=" ++ v
  ne_empty : k ≠ ""
  equals_not_mem : '=' ∉ k.toList

theorem splitEntry_eq_some_iff {entry k v : String} :
    splitEntry entry = some (k, v) ↔ Defines entry k v := by
  have htext : ∀ key value : List Char,
      entry.toList = key ++ '=' :: value ↔ entry = String.ofList key ++ "=" ++ String.ofList value := by
    intro key value
    rw [← String.toList_inj]
    simp
  constructor
  · intro h
    unfold splitEntry at h
    split at h
    · next key value hcut =>
      obtain ⟨heq, hequals⟩ := Text.cut_eq_some_iff.1 hcut
      split at h
      · cases h
      next hne =>
      cases h
      exact ⟨(htext key value).1 heq, by simpa using hne, by rwa [String.toList_ofList]⟩
    · cases h
  · rintro ⟨heq, hne, hequals⟩
    have hcut : Text.cut '=' entry.toList = some (k.toList, v.toList) := by
      refine Text.cut_eq_some_iff.2 ⟨(htext _ _).2 ?_, hequals⟩
      rwa [String.ofList_toList, String.ofList_toList]
    rw [splitEntry, hcut]
    dsimp only
    rw [if_neg (by simpa using hne), String.ofList_toList, String.ofList_toList]

theorem Defines.unique {entry k v k' v' : String} (h : Defines entry k v)
    (h' : Defines entry k' v') : k = k' ∧ v = v' := by
  have heq := (splitEntry_eq_some_iff.2 h).symm.trans (splitEntry_eq_some_iff.2 h')
  rwa [Option.some.injEq, Prod.mk.injEq] at heq

/-- What is written for a key can be read as its definition. -/
theorem Defines.written {entry k v : String} (h : Defines entry k v) (w : String) :
    Defines (k ++ "=" ++ w) k w := ⟨rfl, h.ne_empty, h.equals_not_mem⟩

/-- The value that entries give a key is the one in the last entry that defines it. -/
inductive LastValue (k v : String) : List String → Prop
  | here {e : String} {es : List String} (defines : Defines e k v)
      (last : ∀ e' ∈ es, ∀ w, ¬ Defines e' k w) : LastValue k v (e :: es)
  | there {e : String} {es : List String} (later : LastValue k v es) : LastValue k v (e :: es)

theorem LastValue.exists_defines {k v : String} {es : List String} (h : LastValue k v es) :
    ∃ e ∈ es, Defines e k v := by
  induction h with
  | here defines _ => exact ⟨_, List.mem_cons_self, defines⟩
  | there _ ih =>
    obtain ⟨e, he, hdefines⟩ := ih
    exact ⟨e, List.mem_cons_of_mem _ he, hdefines⟩

theorem lookup_cons (e : String) (es : List String) (k : String) :
    lookup (e :: es) k = (lookup es k).or ((splitEntry e).toList.lookup k) := by
  unfold lookup definitions
  cases h : splitEntry e <;> simp [h, List.lookup_append]

/-- A single entry is looked up as what it defines. -/
theorem lookup_splitEntry {e k v : String} :
    (splitEntry e).toList.lookup k = some v ↔ Defines e k v := by
  have hnodup : ((splitEntry e).toList.map Prod.fst).Nodup := by
    cases splitEntry e <;> simp
  rw [lookup_eq_some hnodup, Option.mem_toList, splitEntry_eq_some_iff]

theorem lookup_eq_none_iff {es : List String} {k : String} :
    lookup es k = none ↔ ∀ e ∈ es, ∀ v, ¬ Defines e k v := by
  induction es with
  | nil => simp [lookup, definitions]
  | cons e es ih =>
    rw [lookup_cons, Option.or_eq_none_iff, ih, List.forall_mem_cons, and_comm,
      Option.eq_none_iff_forall_ne_some]
    simp only [ne_eq, lookup_splitEntry]

theorem lookup_eq_some_iff {es : List String} {k v : String} :
    lookup es k = some v ↔ LastValue k v es := by
  induction es with
  | nil =>
    refine iff_of_false ?_ nofun
    simp [lookup, definitions]
  | cons e es ih =>
    rw [lookup_cons, Option.or_eq_some_iff, ih, lookup_splitEntry, lookup_eq_none_iff]
    constructor
    · rintro (hlater | ⟨hlast, hdefines⟩)
      · exact .there hlater
      · exact .here hdefines hlast
    · rintro (⟨hdefines, hlast⟩ | hlater)
      · exact .inr ⟨hlast, hdefines⟩
      · exact .inl hlater

theorem LastValue.unique {k v w : String} {es : List String} (h : LastValue k v es)
    (h' : LastValue k w es) : v = w :=
  Option.some.inj ((lookup_eq_some_iff.2 h).symm.trans (lookup_eq_some_iff.2 h'))

end OciCompose.Environment
