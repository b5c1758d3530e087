import OciCompose.Json.Decode
import OciCompose.Proofs.Json.Reader
import OciCompose.Proofs.SortedMap

/-
  Decoders read back what is written.
  A value that was read is what its text is read as, if its numbers are whole (`readsBack_valueOf`);
  a double need not be. Lists and maps are read back if their items are (`readsBack_list`,
  `readsBack_map`). How many levels of nesting are left counts only by being enough (`valueOf_mono`).
-/

namespace OciCompose.Json

/-! ## Values -/

mutual

/-- The numbers in a value. -/
def Value.numbers : Value → List Number
  | .number n => [n]
  | .array vs => itemsNumbers vs
  | .object ms => membersNumbers ms
  | .null | .bool _ | .string _ => []

def itemsNumbers : List Value → List Number
  | [] => []
  | v :: vs => v.numbers ++ itemsNumbers vs

def membersNumbers : List (String × Value) → List Number
  | [] => []
  | (_, v) :: ms => v.numbers ++ membersNumbers ms

end

/-- All numbers in a value are whole. -/
def Value.Whole (v : Value) : Prop := ∀ n ∈ v.numbers, n.Whole

theorem mem_itemsNumbers {vs : List Value} {n : Number} :
    n ∈ itemsNumbers vs ↔ ∃ v ∈ vs, n ∈ v.numbers := by
  induction vs with
  | nil => simp [itemsNumbers]
  | cons v vs ih => simp [itemsNumbers, ih]

theorem mem_membersNumbers {ms : List (String × Value)} {n : Number} :
    n ∈ membersNumbers ms ↔ ∃ m ∈ ms, n ∈ m.2.numbers := by
  induction ms with
  | nil => simp [membersNumbers]
  | cons m ms ih => simp [membersNumbers, ih]

theorem Value.Whole.item {vs : List Value} (h : (Value.array vs).Whole) : ∀ v ∈ vs, v.Whole :=
  fun v hv n hn => h n (mem_itemsNumbers.2 ⟨v, hv, hn⟩)

theorem Value.Whole.member {ms : List (String × Value)} (h : (Value.object ms).Whole) :
    ∀ m ∈ ms, m.2.Whole :=
  fun m hm n hn => h n (mem_membersNumbers.2 ⟨m, hm, hn⟩)

/-- A decoder reads what is written for `a` as `a`, with so many levels of nesting left. -/
def ReadsBack {α : Type} (d : Decoder α) (e : α → Value) (room : Nat) (a : α) : Prop :=
  d room (e a).reading = some a

theorem itemsOf_cons {room : Nat} {r : Raw} {rs : List Raw} {vs : List Value}
    (h : itemsOf room (r :: rs) = some vs) :
    ∃ x xs, valueOf room r = some x ∧ itemsOf room rs = some xs ∧ vs = x :: xs := by
  unfold itemsOf at h
  split at h
  · next x xs hx hxs => exact ⟨x, xs, hx, hxs, (Option.some.inj h).symm⟩
  · cases h

theorem membersOf_cons {room : Nat} {k : Option String} {r : Raw} {rs : List (Option String × Raw)}
    {ms : List (String × Value)} (h : membersOf room ((k, r) :: rs) = some ms) :
    ∃ name x xs, k = some name ∧ valueOf room r = some x ∧ membersOf room rs = some xs ∧
      ms = (name, x) :: xs := by
  unfold membersOf at h
  split at h
  · next name x xs hx hxs => exact ⟨name, x, xs, rfl, hx, hxs, (Option.some.inj h).symm⟩
  · cases h

theorem itemsOf_reading {room : Nat} {vs : List Value} (h : ∀ v ∈ vs, ReadsBack valueOf id room v) :
    itemsOf room (itemsReading vs) = some vs := by
  induction vs with
  | nil => rfl
  | cons v vs ih =>
    have hv : valueOf room v.reading = some v := h v List.mem_cons_self
    rw [itemsReading, itemsOf, hv, ih fun x hx => h x (List.mem_cons_of_mem _ hx)]

theorem membersOf_reading {room : Nat} {ms : List (String × Value)}
    (h : ∀ m ∈ ms, ReadsBack valueOf id room m.2) :
    membersOf room (membersReading ms) = some ms := by
  induction ms with
  | nil => rfl
  | cons m ms ih =>
    have hm : valueOf room m.2.reading = some m.2 := h m List.mem_cons_self
    unfold membersReading membersOf
    rw [hm, ih fun x hx => h x (List.mem_cons_of_mem _ hx)]

/-- Objects are read with their members in order, so in order they are read back. -/
theorem readsBack_object {room : Nat} {ms : List (String × Value)} (hms : Ascending ms)
    (h : ∀ m ∈ ms, ReadsBack valueOf id room m.2) :
    ReadsBack valueOf id (room + 1) (.object ms) := by
  show (membersOf room (membersReading ms)).map _ = _
  rw [membersOf_reading h, Option.map_some, SortedMap.toList_ofList hms]

mutual

/-- A value that was read is read back if its numbers are whole. -/
theorem readsBack_valueOf : ∀ (r : Raw) (room : Nat) (v : Value), valueOf room r = some v →
    v.Whole → ReadsBack valueOf id room v
  | .null, room, v, h, _ => by
    cases room <;> cases h <;> rfl
  | .bool b, room, v, h, _ => by
    cases room <;> cases h <;> rfl
  | .number n, room, v, h, hw => by
    obtain ⟨x, -, rfl⟩ : ∃ x, n = some x ∧ .number x = v := by
      cases room <;> exact Option.map_eq_some_iff.1 h
    have hx : x.Whole := hw x List.mem_cons_self
    show valueOf room x.reading = _
    rw [hx.reading_eq]
    cases room <;> rfl
  | .string s, room, v, h, _ => by
    obtain ⟨x, -, rfl⟩ : ∃ x, s = some x ∧ .string x = v := by
      cases room <;> exact Option.map_eq_some_iff.1 h
    cases room <;> rfl
  | .array rs, 0, v, h, _ => by cases h
  | .array rs, room + 1, v, h, hw => by
    obtain ⟨vs, hvs, rfl⟩ := Option.map_eq_some_iff.1 h
    have hitems := readsBack_itemsOf rs room vs hvs hw.item
    show (itemsOf room (itemsReading vs)).map _ = _
    rw [itemsOf_reading hitems]
    rfl
  | .object rs, 0, v, h, _ => by cases h
  | .object rs, room + 1, v, h, hw => by
    obtain ⟨ms, hms, rfl⟩ := Option.map_eq_some_iff.1 h
    refine readsBack_object (SortedMap.ofList ms).ascending fun m hm => ?_
    exact readsBack_membersOf rs room ms hms m (SortedMap.mem_of_mem_ofList hm) (hw.member m hm)

theorem readsBack_itemsOf : ∀ (rs : List Raw) (room : Nat) (vs : List Value),
    itemsOf room rs = some vs → (∀ v ∈ vs, v.Whole) → ∀ v ∈ vs, ReadsBack valueOf id room v
  | [], room, vs, h, _, v, hv => by
    cases h
    cases hv
  | r :: rs, room, vs, h, hw, v, hv => by
    obtain ⟨x, xs, hx, hxs, rfl⟩ := itemsOf_cons h
    rcases List.mem_cons.1 hv with rfl | hv
    · exact readsBack_valueOf r room _ hx (hw _ List.mem_cons_self)
    · exact readsBack_itemsOf rs room xs hxs (fun y hy => hw y (List.mem_cons_of_mem _ hy)) v hv

theorem readsBack_membersOf : ∀ (rs : List (Option String × Raw)) (room : Nat)
    (ms : List (String × Value)), membersOf room rs = some ms →
    ∀ m ∈ ms, m.2.Whole → ReadsBack valueOf id room m.2
  | [], room, ms, h, m, hm, _ => by
    cases h
    cases hm
  | (k, r) :: rs, room, ms, h, m, hm, hw => by
    obtain ⟨name, x, xs, -, hx, hxs, rfl⟩ := membersOf_cons h
    rcases List.mem_cons.1 hm with rfl | hm
    · exact readsBack_valueOf r room _ hx hw
    · exact readsBack_membersOf rs room xs hxs m hm hw

end

mutual

/-- More levels of nesting make no difference to what is read. -/
theorem valueOf_mono : ∀ (r : Raw) {room room' : Nat} {v : Value}, room ≤ room' →
    valueOf room r = some v → valueOf room' r = some v
  | .null, room, room', v, _, h => by cases room <;> cases room' <;> exact h
  | .bool _, room, room', v, _, h => by cases room <;> cases room' <;> exact h
  | .number _, room, room', v, _, h => by cases room <;> cases room' <;> exact h
  | .string _, room, room', v, _, h => by cases room <;> cases room' <;> exact h
  | .array rs, 0, _, v, _, h => by cases h
  | .array rs, room + 1, 0, v, hle, _ => by cases hle
  | .array rs, room + 1, room' + 1, v, hle, h => by
    obtain ⟨vs, hvs, rfl⟩ := Option.map_eq_some_iff.1 h
    show (itemsOf room' rs).map _ = _
    rw [itemsOf_mono rs (Nat.le_of_succ_le_succ hle) hvs]
    rfl
  | .object rs, 0, _, v, _, h => by cases h
  | .object rs, room + 1, 0, v, hle, _ => by cases hle
  | .object rs, room + 1, room' + 1, v, hle, h => by
    obtain ⟨ms, hms, rfl⟩ := Option.map_eq_some_iff.1 h
    show (membersOf room' rs).map _ = _
    rw [membersOf_mono rs (Nat.le_of_succ_le_succ hle) hms]
    rfl

theorem itemsOf_mono : ∀ (rs : List Raw) {room room' : Nat} {vs : List Value}, room ≤ room' →
    itemsOf room rs = some vs → itemsOf room' rs = some vs
  | [], _, _, _, _, h => h
  | r :: rs, room, room', vs, hle, h => by
    obtain ⟨x, xs, hx, hxs, rfl⟩ := itemsOf_cons h
    unfold itemsOf
    rw [valueOf_mono r hle hx, itemsOf_mono rs hle hxs]

theorem membersOf_mono : ∀ (rs : List (Option String × Raw)) {room room' : Nat}
    {ms : List (String × Value)}, room ≤ room' →
    membersOf room rs = some ms → membersOf room' rs = some ms
  | [], _, _, _, _, h => h
  | (k, r) :: rs, room, room', ms, hle, h => by
    obtain ⟨name, x, xs, rfl, hx, hxs, rfl⟩ := membersOf_cons h
    unfold membersOf
    rw [valueOf_mono r hle hx, membersOf_mono rs hle hxs]

end

/-! ## Lists and maps -/

/-- Keys that are texts. -/
theorem textKeys_eq_some {β : Type} {ms : List (Option String × β)} {ts : List (String × β)} :
    textKeys ms = some ts ↔ ms = ts.map fun t => (some t.1, t.2) := by
  unfold textKeys
  induction ms generalizing ts with
  | nil => cases ts <;> simp
  | cons m ms ih =>
    obtain ⟨k, v⟩ := m
    rw [List.mapM_cons]
    cases k with
    | none => cases ts <;> simp
    | some k =>
      cases ts with
      | nil => simp [Option.bind_eq_some_iff]
      | cons t ts =>
        rw [List.map_cons, List.cons.injEq, ← ih]
        simp only [Option.map_some, bind, Option.bind_some, Option.bind_eq_some_iff, pure,
          Option.some.injEq, List.cons.injEq, Prod.ext_iff]
        constructor
        · rintro ⟨rest, hrest, ⟨hk, hv⟩, rfl⟩
          exact ⟨⟨hk, hv⟩, hrest⟩
        · rintro ⟨⟨hk, hv⟩, hrest⟩
          exact ⟨ts, hrest, ⟨hk, hv⟩, rfl⟩

/-- What a decoder is given of an object: all its members, each known name once at most. -/
theorem members_eq_some {known : List String} {room room' : Nat} {r : Raw}
    {ms : List (String × Raw)} (h : Decode.members known room r = some (room', ms)) :
    room = room' + 1 ∧ r = .object (ms.map fun t => (some t.1, t.2)) ∧
      ∀ k ∈ known, (ms.map Prod.fst).count k ≤ 1 := by
  unfold Decode.members at h
  split at h
  · next room raws =>
    cases hkeys : textKeys raws with
    | none =>
      rw [hkeys] at h
      cases h
    | some ts =>
      rw [hkeys] at h
      dsimp only at h
      split at h
      · cases h
      · next hcount =>
        cases h
        refine ⟨rfl, congrArg Raw.object (textKeys_eq_some.1 hkeys), fun k hk => ?_⟩
        exact Nat.le_of_not_lt fun hlt => hcount (List.any_eq_true.2 ⟨k, hk, decide_eq_true hlt⟩)
  · cases h

section Items

variable {α : Type} {d : Decoder α} {e : α → Value} {room : Nat}

open Decode

/-- A list is read item by item. -/
theorem listItems_eq_some {rs : List Raw} {as : List α} :
    listItems d room rs = some as ↔ rs.map (d room) = as.map some := by
  induction rs generalizing as with
  | nil => cases as <;> simp [listItems]
  | cons r rs ih =>
    unfold listItems
    cases as with
    | nil => split <;> simp
    | cons a as =>
      rw [List.map_cons, List.map_cons, List.cons.injEq, ← ih]
      split
      · next x xs hx hxs => simp [hx, hxs]
      · next hno =>
        refine ⟨nofun, fun h => (hno a as h.1 h.2).elim⟩

/-- The entries of a map are read one by one. -/
theorem zip_listItems {ts : List (String × Raw)} {vs : List α}
    (h : listItems d room (ts.map Prod.snd) = some vs) :
    ((ts.map Prod.fst).zip vs).map (fun x => (x.1, some x.2)) = ts.map fun t => (t.1, d room t.2) := by
  rw [listItems_eq_some, List.map_map] at h
  induction ts generalizing vs with
  | nil => rfl
  | cons t ts ih =>
    cases vs with
    | nil => cases h
    | cons v vs =>
      rw [List.map_cons, List.map_cons, List.cons.injEq] at h
      rw [List.map_cons, List.zip_cons_cons, List.map_cons, List.map_cons, ih h.2, ← h.1]
      rfl

/-- A key has the value that is read from its last member. -/
theorem get?_ofList_zip {ts : List (String × Raw)} {vs : List α}
    (h : listItems d room (ts.map Prod.snd) = some vs) (k : String) :
    ((SortedMap.ofList ((ts.map Prod.fst).zip vs)).get? k).map some =
      (ts.reverse.lookup k).map (d room) := by
  rw [SortedMap.get?_ofList_eq_lookup, ← lookup_map, ← lookup_map, List.map_reverse, List.map_reverse,
    zip_listItems h]

theorem listItems_readings {as : List α} (h : ∀ a ∈ as, ReadsBack d e room a) :
    listItems d room (as.map fun a => (e a).reading) = some as := by
  rw [listItems_eq_some, List.map_map]
  exact List.map_congr_left h

theorem readsBack_list {as : List α} (h : ∀ a ∈ as, ReadsBack d e room a) :
    ReadsBack (list d) (fun as => .array (as.map e)) (room + 1) as := by
  show listItems d room (itemsReading (as.map e)) = some as
  rw [itemsReading_eq, List.map_map]
  exact listItems_readings h

theorem textKeys_membersReading (ms : List (String × Value)) :
    textKeys (membersReading ms) = some (ms.map fun m => (m.1, m.2.reading)) := by
  rw [textKeys_eq_some, membersReading_eq, List.map_map]
  rfl

theorem ofList_zip {m : SortedMap α} :
    SortedMap.ofList ((m.toList.map Prod.fst).zip (m.toList.map Prod.snd)) = m := by
  rw [List.zip_map', List.map_id', SortedMap.ofList_toList]

theorem readsBack_map {m : SortedMap α} (h : ∀ x ∈ m.toList, ReadsBack d e room x.2) :
    ReadsBack (map d) (fun m => .object (m.toList.map fun x => (x.1, e x.2))) (room + 1) m := by
  have hitems : listItems d room (m.toList.map fun x => (e x.2).reading) =
      some (m.toList.map Prod.snd) := by
    rw [listItems_eq_some, List.map_map, List.map_map]
    exact List.map_congr_left h
  unfold ReadsBack Value.reading map
  dsimp only
  rw [textKeys_membersReading]
  simp only [List.map_map]
  show (listItems d room (m.toList.map fun x => (e x.2).reading)).map _ = some m
  rw [hitems, Option.map_some]
  exact congrArg some ofList_zip

end Items

/-! ## Texts and numbers -/

section Scalars

open Decode

theorem reading_natural {n : Nat} (h : n < 2 ^ 64) :
    (Value.natural n).reading = .number (some (.integer n)) :=
  Number.Whole.reading_eq (x := .integer n) ⟨by omega, by omega⟩

theorem readsBack_text (room : Nat) (s : String) : ReadsBack text .string room s := rfl

theorem readsBack_word32 (room : Nat) (n : UInt32) :
    ReadsBack word32 (fun n => .natural n.toNat) room n := by
  have hn := n.toNat_lt
  unfold ReadsBack word32 natural
  rw [reading_natural (by omega)]
  show (if n.toNat < 2 ^ 32 then some n.toNat else none).map UInt32.ofNat = some n
  rw [if_pos hn, Option.map_some, UInt32.ofNat_toNat]

theorem readsBack_word64 (room : Nat) (n : UInt64) :
    ReadsBack word64 (fun n => .natural n.toNat) room n := by
  have hn := n.toNat_lt
  unfold ReadsBack word64 natural
  rw [reading_natural hn]
  show (if n.toNat < 2 ^ 64 then some n.toNat else none).map UInt64.ofNat = some n
  rw [if_pos hn, Option.map_some, UInt64.ofNat_toNat]

end Scalars

end OciCompose.Json
