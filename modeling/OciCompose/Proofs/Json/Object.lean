import OciCompose.Proofs.Json.Decode

/-
  Objects of known fields, with other members behind them.
  `Layout` is how such an object is written, and each of its fields is read back by the way it was
  written: always, if it is there, or if it is not the default. `Passes` says that other members
  are passed on; members that were read are (`Passes.of_others`).
-/

namespace OciCompose.Json

/-! ## Objects -/

/-- The fields that are there. -/
def written (fields : List (String × Option Value)) : List (String × Value) :=
  fields.filterMap fun f => f.2.map (f.1, ·)

theorem given_some (k : String) (v : Value) : given k (some v) = [(k, v)] := rfl

theorem given_ite (k : String) (v : Value) (c : Prop) [Decidable c] :
    given k (if c then none else some v) = if c then [] else [(k, v)] := by
  split <;> rfl

/-- The members of an object as they are read from its text. -/
def readings (ms : List (String × Value)) : List (String × Raw) := ms.map fun m => (m.1, m.2.reading)

theorem keys_readings (ms : List (String × Value)) :
    (readings ms).map Prod.fst = ms.map Prod.fst := by
  unfold readings
  rw [List.map_map]
  rfl

theorem written_cons (k : String) (v : Option Value) (fields : List (String × Option Value)) :
    written ((k, v) :: fields) = given k v ++ written fields := by
  cases v <;> rfl

theorem written_nil : written [] = [] := rfl

theorem keys_written (fields : List (String × Option Value)) :
    ((written fields).map Prod.fst).Sublist (fields.map Prod.fst) := by
  induction fields with
  | nil => exact List.Sublist.refl _
  | cons f fields ih =>
    obtain ⟨k, v⟩ := f
    rw [written_cons]
    cases v with
    | none => exact ih.trans (List.sublist_cons_self _ _)
    | some v => exact List.Sublist.cons_cons _ ih

theorem lookup_written {fields : List (String × Option Value)} (h : (fields.map Prod.fst).Nodup)
    (k : String) : (written fields).lookup k = (fields.lookup k).join := by
  induction fields with
  | nil => rfl
  | cons f fields ih =>
    obtain ⟨name, v⟩ := f
    rw [List.map_cons, List.nodup_cons] at h
    rw [written_cons, List.lookup_append, ih h.2, List.lookup_cons]
    by_cases hk : k = name
    · subst hk
      cases v <;> simp [given, lookup_of_not_mem h.1]
    · have hb : (k == name) = false := beq_eq_false_iff_ne.2 hk
      cases v <;> simp [given, hb, List.lookup_cons]

/-- Fields of known names, each once, with members of other names behind them. -/
structure Layout (known : List String) (fields : List (String × Option Value))
    (rest : List (String × Value)) : Prop where
  names : fields.map Prod.fst = known
  nodup : known.Nodup
  unknown : ∀ m ∈ rest, m.1 ∉ known

namespace Layout

open Decode

variable {known : List String} {fields : List (String × Option Value)}
  {rest : List (String × Value)} {α : Type} {d : Decoder α} {e : α → Value} {room : Nat} {k : String}

theorem not_mem_rest (h : Layout known fields rest) (hk : k ∈ known) : k ∉ rest.map Prod.fst := by
  intro hmem
  obtain ⟨m, hm, rfl⟩ := List.mem_map.1 hmem
  exact h.unknown m hm hk

theorem lookup (h : Layout known fields rest) (hk : k ∈ known) :
    (readings (written fields ++ rest)).lookup k = (fields.lookup k).join.map Value.reading := by
  have hnodup : (fields.map Prod.fst).Nodup := h.names ▸ h.nodup
  unfold readings
  rw [lookup_map, List.lookup_append, lookup_of_not_mem (h.not_mem_rest hk), Option.or_none,
    lookup_written hnodup]

theorem members (h : Layout known fields rest) (room : Nat) :
    Decode.members known (room + 1) (Value.object (written fields ++ rest)).reading =
      some (room, readings (written fields ++ rest)) := by
  have hcount : ∀ k ∈ known, ¬ 1 < ((readings (written fields ++ rest)).map Prod.fst).count k := by
    intro k hk
    have honce : ((written fields).map Prod.fst).count k ≤ 1 :=
      List.nodup_iff_count.1 ((keys_written fields).nodup (h.names ▸ h.nodup)) k
    rw [keys_readings, List.map_append, List.count_append,
      List.count_eq_zero.2 (h.not_mem_rest hk)]
    omega
  unfold Decode.members Value.reading
  dsimp only
  rw [textKeys_membersReading]
  dsimp only
  rw [if_neg]
  · rfl
  · rw [List.any_eq_true]
    rintro ⟨k, hk, hlt⟩
    exact hcount k hk (of_decide_eq_true hlt)

theorem record (h : Layout known fields rest) (room : Nat) :
    Decode.record known (room + 1) (Value.object (written fields ++ rest)).reading =
      some (room, readings (written fields ++ rest)) := h.members room

theorem mem_known (h : Layout known fields rest) {v : Option Value} (hk : fields.lookup k = some v) :
    k ∈ known := by
  rw [← h.names]
  obtain ⟨before, after, hfields, -⟩ := List.lookup_eq_some_iff.1 hk
  rw [hfields]
  simp

/-- A field that has to be there. -/
theorem required (h : Layout known fields rest) {a : α} (hk : fields.lookup k = some (some (e a)))
    (ha : ReadsBack d e room a) :
    Decode.required (readings (written fields ++ rest)) room k d = some a := by
  unfold Decode.required
  rw [h.lookup (h.mem_known hk), hk]
  exact ha

/-- A field that is left out if it has its default. -/
theorem defaulted (h : Layout known fields rest) {a default : α} {v : Option Value}
    (hk : fields.lookup k = some v) (hnone : v = none → a = default)
    (hsome : ∀ x, v = some x → d room x.reading = some a) :
    Decode.defaulted (readings (written fields ++ rest)) room k d default = some a := by
  unfold Decode.defaulted
  rw [h.lookup (h.mem_known hk), hk]
  cases v with
  | none => exact congrArg some (hnone rfl).symm
  | some x => exact hsome x rfl

/-- A field that is always there, though it has a default. -/
theorem present (h : Layout known fields rest) {a default : α}
    (hk : fields.lookup k = some (some (e a))) (ha : ReadsBack d e room a) :
    Decode.defaulted (readings (written fields ++ rest)) room k d default = some a :=
  h.defaulted hk nofun fun _ hx => by
    cases hx
    exact ha

/-- A field that may be missing. -/
theorem optional (h : Layout known fields rest) {o : Option α}
    (hk : fields.lookup k = some (o.map e)) (hnull : ∀ a, e a ≠ .null)
    (ha : ∀ a, o = some a → ReadsBack d e room a) :
    Decode.defaulted (readings (written fields ++ rest)) room k (Decode.optional d) none =
      some o := by
  refine h.defaulted hk ?_ ?_
  · cases o with
    | none => exact fun _ => rfl
    | some a => nofun
  · intro x hx
    obtain ⟨a, rfl, rfl⟩ := Option.map_eq_some_iff.1 hx
    have hread : d room (e a).reading = some a := ha a rfl
    unfold Decode.optional
    split
    · next hn => exact (Value.reading_ne_null (hnull a) hn).elim
    · rw [hread]
      rfl

/-- A list that is left out if it is empty. -/
theorem unlessEmpty (h : Layout known fields rest) {as : List α} {v : Value}
    (hk : fields.lookup k = some (if as.isEmpty then none else some v))
    (ha : Decode.list d room v.reading = some as) :
    Decode.defaulted (readings (written fields ++ rest)) room k (Decode.list d) [] = some as := by
  refine h.defaulted hk (fun hnone => ?_) (fun x hx => ?_)
  · split at hnone
    · next hempty => exact List.isEmpty_iff.1 hempty
    · cases hnone
  · split at hx
    · cases hx
    · cases hx
      exact ha

/-- A text that is left out if it is empty. -/
theorem unlessBlank (h : Layout known fields rest) {s : String}
    (hk : fields.lookup k = some (if s.isEmpty then none else some (.string s))) :
    Decode.defaulted (readings (written fields ++ rest)) room k text "" = some s := by
  refine h.defaulted hk (fun hnone => ?_) (fun x hx => ?_)
  · split at hnone
    · next hempty => exact String.isEmpty_iff.1 hempty
    · cases hnone
  · split at hx
    · cases hx
    · cases hx
      exact readsBack_text room s

end Layout

/-! ## Other members -/

/-- Members that are passed on are those of unknown names, and each of them is read back. -/
structure Passes (known : List String) (room : Nat) (extra : SortedMap Value) : Prop where
  unknown : ∀ m ∈ extra.toList, m.1 ∉ known
  readsBack : ∀ m ∈ extra.toList, ReadsBack valueOf id room m.2

theorem Passes.empty (known : List String) (room : Nat) : Passes known room .empty :=
  ⟨nofun, nofun⟩

section Others

open Decode

variable {known : List String} {ms : List (String × Raw)} {room : Nat} {extra : SortedMap Value}

/-- A member of another name has the value that is read from the last of that name. -/
theorem get?_others (h : others known ms room = some extra) {k : String} (hk : k ∉ known) :
    (extra.get? k).map some = (ms.reverse.lookup k).map (valueOf room) := by
  obtain ⟨vs, hvs, rfl⟩ := Option.map_eq_some_iff.1 h
  rw [get?_ofList_zip hvs, ← List.filter_reverse, lookup_filter (p := fun k => !known.contains k)]
  simpa using hk

theorem mem_others (h : others known ms room = some extra) {m : String × Value}
    (hm : m ∈ extra.toList) : m.1 ∉ known ∧ ∃ r, valueOf room r = some m.2 := by
  obtain ⟨vs, hvs, rfl⟩ := Option.map_eq_some_iff.1 h
  have hzip := List.mem_map_of_mem (f := fun x : String × Value => (x.1, some x.2))
    (SortedMap.mem_of_mem_ofList hm)
  rw [zip_listItems hvs] at hzip
  obtain ⟨t, ht, heq⟩ := List.mem_map.1 hzip
  obtain ⟨hkey, hvalue⟩ := Prod.mk.inj heq
  refine ⟨?_, t.2, hvalue⟩
  rw [← hkey]
  simpa using (List.mem_filter.1 ht).2

/-- Members that are read are passed on if their numbers are whole. -/
theorem Passes.of_others (h : others known ms room = some extra)
    (hw : ∀ m ∈ extra.toList, m.2.Whole) : Passes known room extra where
  unknown := fun m hm => (mem_others h hm).1
  readsBack := fun m hm => by
    obtain ⟨-, r, hr⟩ := mem_others h hm
    exact readsBack_valueOf r room m.2 hr (hw m hm)

theorem Passes.others {fields : List (String × Option Value)}
    (h : Passes known room extra) (hl : Layout known fields extra.toList) :
    Decode.others known (readings (written fields ++ extra.toList)) room = some extra := by
  have hfields : (readings (written fields)).filter (fun m => !known.contains m.1) = [] := by
    rw [List.filter_eq_nil_iff]
    intro m hm
    have hmem := List.mem_map_of_mem (f := Prod.fst) hm
    rw [keys_readings] at hmem
    have hknown := (keys_written fields).subset hmem
    rw [hl.names] at hknown
    simpa using hknown
  have hextra : (readings extra.toList).filter (fun m => !known.contains m.1) =
      readings extra.toList := by
    rw [List.filter_eq_self]
    intro m hm
    obtain ⟨x, hx, rfl⟩ := List.mem_map.1 hm
    simpa using h.unknown x hx
  have hitems : listItems valueOf room ((readings extra.toList).map Prod.snd) =
      some (extra.toList.map Prod.snd) := by
    unfold readings
    rw [listItems_eq_some, List.map_map, List.map_map, List.map_map]
    exact List.map_congr_left h.readsBack
  unfold Decode.others
  rw [readings, List.map_append, ← readings, ← readings, List.filter_append, hfields,
    List.nil_append, hextra]
  dsimp only
  rw [hitems, keys_readings, Option.map_some, ofList_zip]

end Others

/-! ## What was read -/

section Reads

open Decode

variable {α : Type} {d : Decoder α} {room room' : Nat} {known : List String} {r : Raw}
  {ms : List (String × Raw)} {k : String}

/-- A decoder reads something as `a`, with so many levels of nesting left. -/
def Reads (d : Decoder α) (room : Nat) (a : α) : Prop := ∃ r, d room r = some a

theorem room_of_members (h : members known (room + 1) r = some (room', ms)) : room' = room :=
  (Nat.succ.inj (members_eq_some h).1).symm

theorem reads_required {a : α} (h : required ms room k d = some a) : Reads d room a := by
  obtain ⟨r, -, hr⟩ := Option.bind_eq_some_iff.1 h
  exact ⟨r, hr⟩

theorem reads_defaulted {a default : α} (h : defaulted ms room k d default = some a) :
    Reads d room a ∨ a = default := by
  unfold defaulted at h
  split at h
  · exact Or.inl ⟨_, h⟩
  · exact Or.inr (Option.some.inj h).symm

theorem reads_optional {o : Option α} (h : defaulted ms room k (optional d) none = some o) {a : α}
    (ha : o = some a) : Reads d room a := by
  subst ha
  rcases reads_defaulted h with ⟨r, hr⟩ | hnone
  · unfold Decode.optional at hr
    split at hr
    · cases hr
    · obtain ⟨x, hx, hxa⟩ := Option.map_eq_some_iff.1 hr
      cases hxa
      exact ⟨_, hx⟩
  · cases hnone

theorem reads_list {as : List α} (h : Reads (list d) (room + 1) as) : ∀ a ∈ as, Reads d room a := by
  obtain ⟨r, hr⟩ := h
  intro a ha
  unfold list at hr
  split at hr
  · next n vs hroom =>
    cases hroom
    have hmem := List.mem_map_of_mem (f := some) ha
    rw [← listItems_eq_some.1 hr] at hmem
    obtain ⟨v, -, hv⟩ := List.mem_map.1 hmem
    exact ⟨v, hv⟩
  · cases hr

theorem reads_items {as : List α} (h : defaulted ms (room + 1) k (list d) [] = some as) :
    ∀ a ∈ as, Reads d room a := by
  rcases reads_defaulted h with hread | rfl
  · exact reads_list hread
  · nofun

end Reads

end OciCompose.Json
