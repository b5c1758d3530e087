import OciCompose.Proofs.Json.Object

/-
  The members of syntax trees, as decoders read them.
  `Sees` is what a decoder has of an object: the last member of a name counts, and a known name is
  there once. Each way of reading a member says what its value in the tree is.
-/

namespace OciCompose.Json

/-- The last member of a name, which is the one that counts. -/
def Raw.last? : Raw → String → Option Raw
  | .object ms, k => ms.reverse.lookup (some k)
  | _, _ => none

/-- What the last member of a name is read as. -/
def Raw.value? (r : Raw) (k : String) : Option (Option Value) :=
  (r.last? k).map (valueOf maxNesting)

/-- A member that is an object. -/
def Raw.object? (r : Raw) (k : String) : Option Raw :=
  match r.last? k with
  | some (.object ms) => some (.object ms)
  | _ => none

/-- The items of a member that is an array. -/
def Raw.items (r : Raw) (k : String) : List Raw :=
  match r.last? k with
  | some (.array rs) => rs
  | _ => []

theorem last?_object (ts : List (String × Raw)) (k : String) :
    (Raw.object (ts.map fun t => (some t.1, t.2))).last? k = ts.reverse.lookup k := by
  show (ts.map fun t => (some t.1, t.2)).reverse.lookup (some k) = _
  rw [← List.map_reverse, lookup_map_some]

section Members

open Decode

variable {known : List String} {room room' : Nat} {r : Raw} {ms : List (String × Raw)} {k : String}

/-- What a decoder sees of an object: its members, a known name once at most. -/
structure Sees (known : List String) (r : Raw) (ms : List (String × Raw)) : Prop where
  last : ∀ k, ms.reverse.lookup k = r.last? k
  known : ∀ k ∈ known, ms.lookup k = r.last? k

theorem sees_of_members (h : members known room r = some (room', ms)) : Sees known r ms := by
  obtain ⟨-, rfl, hcount⟩ := members_eq_some h
  refine ⟨fun k => (last?_object ms k).symm, fun k hk => ?_⟩
  rw [last?_object, lookup_reverse (hcount k hk)]

/-- A member of another name is kept with its value. -/
theorem value?_of_others {extra : SortedMap Value} (hsees : Sees known r ms)
    (hroom : room ≤ maxNesting) (h : others known ms room = some extra)
    (hk : k ∉ known) : r.value? k = (extra.get? k).map some := by
  have hget := get?_others h hk
  rw [hsees.last] at hget
  unfold Raw.value?
  cases hr : r.last? k with
  | none =>
    rw [hr] at hget
    exact hget.symm
  | some x =>
    rw [hr] at hget
    obtain ⟨v, hv, hx⟩ := Option.map_eq_some_iff.1 hget
    rw [hv, Option.map_some, Option.map_some, valueOf_mono x hroom hx.symm]

/-- A list is read from the items of its member. -/
theorem items_of_defaulted {α : Type} {d : Decoder α} {as : List α} (hsees : Sees known r ms)
    (hk : k ∈ known) (h : defaulted ms (room + 1) k (list d) [] = some as) :
    (r.items k).map (d room) = as.map some := by
  unfold defaulted at h
  rw [hsees.known k hk] at h
  unfold Raw.items
  cases hr : r.last? k with
  | none =>
    rw [hr] at h
    cases h
    rfl
  | some x =>
    rw [hr] at h
    cases x with
    | array rs => exact listItems_eq_some.1 h
    | null | bool _ | number _ | string _ | object _ => cases h

theorem valueOf_text {n : Nat} {x : Raw} {s : String} (h : text n x = some s) (room : Nat) :
    valueOf room x = some (.string s) := by
  cases x with
  | string t =>
    obtain rfl : t = some s := h
    cases room <;> rfl
  | null | bool _ | number _ | array _ | object _ => cases h

/-- A text of a map is that of the last member of its name. -/
theorem value?_of_map {n : Nat} {x : Raw} {m : SortedMap String} (h : map text n x = some m)
    (k : String) : x.value? k = (m.get? k).map fun s => some (.string s) := by
  unfold map at h
  split at h
  · next n raws =>
    cases hkeys : textKeys raws with
    | none =>
      rw [hkeys] at h
      cases h
    | some ts =>
      rw [hkeys] at h
      obtain ⟨vs, hvs, rfl⟩ := Option.map_eq_some_iff.1 h
      obtain rfl := textKeys_eq_some.1 hkeys
      have hget := get?_ofList_zip hvs k
      unfold Raw.value?
      rw [last?_object]
      cases hk : ts.reverse.lookup k with
      | none =>
        rw [hk] at hget
        rw [Option.map_eq_none_iff.1 hget]
        rfl
      | some x =>
        rw [hk] at hget
        obtain ⟨s, hs, hx⟩ := Option.map_eq_some_iff.1 hget
        rw [hs, Option.map_some, Option.map_some, valueOf_text hx.symm]
  · cases h

theorem itemsOf_texts {n : Nat} {rs : List Raw} {l : List String}
    (h : rs.map (text n) = l.map some) (room : Nat) : itemsOf room rs = some (l.map .string) := by
  induction rs generalizing l with
  | nil =>
    cases l with
    | nil => rfl
    | cons _ _ => cases h
  | cons r rs ih =>
    cases l with
    | nil => cases h
    | cons s l =>
      rw [List.map_cons, List.map_cons, List.cons.injEq] at h
      unfold itemsOf
      rw [valueOf_text h.1, ih h.2]
      rfl

/-- The value of a list of texts. Null is as good as no list. -/
theorem value?_of_texts {o : Option (List String)} (hsees : Sees known r ms) (hk : k ∈ known)
    (h : defaulted ms room k (Decode.optional (list text)) none = some o) :
    (r.value? k).filter (· ≠ some .null) = o.map fun l => some (.array (l.map .string)) := by
  unfold defaulted at h
  rw [hsees.known k hk] at h
  unfold Raw.value?
  cases hr : r.last? k with
  | none =>
    rw [hr] at h
    cases h
    rfl
  | some x =>
    rw [hr] at h
    cases x with
    | null =>
      cases h
      rfl
    | array rs =>
      obtain ⟨l, hl, rfl⟩ := Option.map_eq_some_iff.1 h
      cases room with
      | zero => cases hl
      | succ room =>
        have hvalue : valueOf maxNesting (.array rs) = some (.array (l.map .string)) := by
          show (itemsOf 126 rs).map _ = _
          rw [itemsOf_texts (listItems_eq_some.1 hl)]
          rfl
        rw [Option.map_some, hvalue]
        rfl
    | bool _ | number _ | string _ | object _ =>
      obtain ⟨l, hl, -⟩ := Option.map_eq_some_iff.1 h
      cases room <;> cases hl

/-- The texts of a map that need not be there. -/
theorem value?_of_annotations {o : Option (SortedMap String)} (hsees : Sees known r ms)
    (hk : k ∈ known) (h : defaulted ms room k (Decode.optional (map text)) none = some o)
    (name : String) : ((r.last? k).bind fun x => x.value? name) =
      (o.bind fun m => m.get? name).map fun s => some (.string s) := by
  unfold defaulted at h
  rw [hsees.known k hk] at h
  cases hr : r.last? k with
  | none =>
    rw [hr] at h
    cases h
    rfl
  | some x =>
    rw [hr] at h
    cases x with
    | null =>
      cases h
      rfl
    | object raws =>
      obtain ⟨m, hm, rfl⟩ := Option.map_eq_some_iff.1 h
      exact value?_of_map hm name
    | bool _ | number _ | string _ | array _ =>
      obtain ⟨m, hm, -⟩ := Option.map_eq_some_iff.1 h
      cases room <;> cases hm

/-- An object that need not be there. -/
theorem object?_of_optional {α : Type} {d : Decoder α} {o : Option α} (hsees : Sees known r ms)
    (hk : k ∈ known) (hd : ∀ x a, d room x = some a → ∃ raws, x = .object raws)
    (h : defaulted ms room k (Decode.optional d) none = some o) :
    Option.Rel (fun x a => d room x = some a) (r.object? k) o := by
  unfold defaulted at h
  rw [hsees.known k hk] at h
  unfold Raw.object?
  cases hr : r.last? k with
  | none =>
    rw [hr] at h
    cases h
    exact Option.Rel.none
  | some x =>
    rw [hr] at h
    cases x with
    | null =>
      cases h
      exact Option.Rel.none
    | object raws =>
      obtain ⟨a, ha, rfl⟩ := Option.map_eq_some_iff.1 h
      exact Option.Rel.some ha
    | bool _ | number _ | string _ | array _ =>
      obtain ⟨a, ha, -⟩ := Option.map_eq_some_iff.1 h
      obtain ⟨raws, hx⟩ := hd _ _ ha
      cases hx

end Members

end OciCompose.Json
