import OciCompose.Json.Decode
import OciCompose.Proofs.Json.Number

/-
  What is written as JSON is read again.
  `Value.reading` is the syntax tree of a value's text: the value itself, but for numbers, which are
  what their text is read as. `ofBytes?_bytes`: the bytes of every value are read as it.
-/

namespace OciCompose.Json

/-! ## Strings -/

theorem hexValue?_digitChar : ∀ d < 16, Hex.value? (Nat.digitChar d) = some d := by decide

/-- A character is read back from the way it is written inside a string. -/
theorem stringCells_escaped (c : Char) (rest : List Cell) :
    stringCells 0 ((escaped c).map some ++ rest) =
      (stringCells 0 rest).map fun p => (some c :: p.1, p.2) := by
  unfold escaped
  split
  · next h => rw [h]; rfl
  split
  · next h => rw [h]; rfl
  split
  · next h => rw [h]; rfl
  split
  · next h => rw [h]; rfl
  split
  · next h => rw [h]; rfl
  split
  · next h => rw [h]; rfl
  split
  · next h => rw [h]; rfl
  split
  · next h =>
    have hhigh := hexValue?_digitChar (c.toNat / 16) (by omega)
    have hlow := hexValue?_digitChar (c.toNat % 16) (by omega)
    have hhex : hex4 (some '0') (some '0') (some (Nat.digitChar (c.toNat / 16)))
        (some (Nat.digitChar (c.toNat % 16))) = some c.toNat := by
      have hzero : Hex.value? '0' = some 0 := by decide
      simp only [hex4, hzero, hhigh, hlow, bind, Option.bind]
      congr 1
      omega
    have hsurrogate : isHighSurrogate c.toNat = false ∧ isLowSurrogate c.toNat = false := by
      unfold isHighSurrogate isLowSurrogate
      constructor <;> simp only [Bool.and_eq_false_iff, decide_eq_false_iff_not] <;> omega
    simp only [List.map_cons, List.map_nil, List.cons_append, List.nil_append]
    conv => lhs; unfold stringCells
    simp only [List.head?_cons, List.getD_cons_succ, List.getD_cons_zero, hhex, hsurrogate.1,
      hsurrogate.2, Char.ofNat_toNat]
    rfl
  · next hquote hslash _ _ _ _ _ hctl =>
    show stringCells 0 (some c :: rest) = _
    rw [stringCells, if_neg hquote, if_neg hctl, if_pos hslash]

theorem stringCells_quoted (cs : List Char) (rest : List Cell) :
    stringCells 0 ((cs.flatMap escaped ++ ['"']).map some ++ rest) =
      some (cs.map some, rest) := by
  induction cs with
  | nil => rfl
  | cons c cs ih =>
    have hstep := stringCells_escaped c ((cs.flatMap escaped ++ ['"']).map some ++ rest)
    rw [ih] at hstep
    rw [List.flatMap_cons, List.append_assoc, List.map_append, List.append_assoc, hstep]
    rfl

theorem mapM_id_map_some (cs : List Char) : (cs.map some).mapM id = some cs := by
  induction cs with
  | nil => rfl
  | cons c cs ih => simp [List.mapM_cons, ih]

theorem readString_quoted (s : String) (rest : List Cell) :
    readString ((s.toList.flatMap escaped ++ ['"']).map some ++ rest) = some (some s, rest) := by
  unfold readString
  rw [stringCells_quoted, Option.map_some]
  dsimp only
  rw [mapM_id_map_some, Option.map_some, String.ofList_toList]

theorem quoted_eq (s : String) : quoted s = '"' :: (s.toList.flatMap escaped ++ ['"']) := rfl

/-! ## Values -/

mutual

/-- The syntax tree of the text of a value. -/
def Value.reading : Value → Raw
  | .null => .null
  | .bool b => .bool b
  | .number n => n.reading
  | .string s => .string (some s)
  | .array vs => .array (itemsReading vs)
  | .object ms => .object (membersReading ms)

def itemsReading : List Value → List Raw
  | [] => []
  | v :: vs => v.reading :: itemsReading vs

def membersReading : List (String × Value) → List (Option String × Raw)
  | [] => []
  | (k, v) :: ms => (some k, v.reading) :: membersReading ms

end

theorem itemsReading_eq (vs : List Value) : itemsReading vs = vs.map Value.reading := by
  induction vs with
  | nil => rfl
  | cons v vs ih => rw [itemsReading, ih, List.map_cons]

theorem membersReading_eq (ms : List (String × Value)) :
    membersReading ms = ms.map fun m => (some m.1, m.2.reading) := by
  induction ms with
  | nil => rfl
  | cons m ms ih => rw [membersReading, ih, List.map_cons]

/-- Only null is read as null. -/
theorem Value.reading_ne_null {v : Value} (h : v ≠ .null) : v.reading ≠ .null := by
  cases v with
  | null => exact absurd rfl h
  | number n => exact n.reading_ne_null
  | bool _ | string _ | array _ | object _ => nofun

theorem closed_itemsChars (vs : List Value) (rest : List Cell) :
    Closed ((itemsChars vs).map some ++ rest) := by
  cases vs with
  | nil => exact Or.inr (Or.inl rfl)
  | cons v vs => exact Or.inl rfl

theorem closed_membersChars (ms : List (String × Value)) (rest : List Cell) :
    Closed ((membersChars ms).map some ++ rest) := by
  cases ms with
  | nil => exact Or.inr (Or.inr rfl)
  | cons m ms => exact Or.inl rfl

theorem readValue_array (fuel : Nat) (cs : List Cell) :
    readValue (fuel + 1) (some '[' :: cs) =
      match skipBlanks cs with
      | some ']' :: rest => some (.array [], rest)
      | _ => (readItems fuel cs).map fun p => (.array p.1, p.2) := rfl

/-- No value begins with a bracket that closes. -/
theorem readValue_bracket (fuel : Nat) {cs rest : List Cell} (h : skipBlanks cs = some ']' :: rest) :
    readValue fuel cs = none := by
  cases fuel with
  | zero => rfl
  | succ fuel =>
    unfold readValue
    rw [h]
    rfl

theorem chars_ne_nil (v : Value) : v.chars ≠ [] := by
  cases v with
  | null => decide
  | bool b => cases b <;> decide
  | number x =>
    obtain ⟨n, hn, htext⟩ := exists_numeral x
    rw [Value.chars, htext]
    simp [Numeral.chars, Numeral.unsigned, hn.whole.ne_nil]
  | string s => simp [Value.chars, quoted]
  | array vs => cases vs <;> simp [Value.chars]
  | object ms => cases ms <;> simp [Value.chars]

theorem readItems_last {fuel : Nat} {cs rest : List Cell} {v : Raw}
    (h : readValue fuel cs = some (v, some ']' :: rest)) :
    readItems (fuel + 1) cs = some ([v], rest) := by
  rw [readItems, h]
  rfl

theorem readItems_more {fuel : Nat} {cs rest : List Cell} {v : Raw}
    (h : readValue fuel cs = some (v, some ',' :: rest)) :
    readItems (fuel + 1) cs = (readItems fuel rest).map fun p => (v :: p.1, p.2) := by
  rw [readItems, h]
  rfl

theorem readMembers_last {fuel : Nat} {cs rest : List Cell} {v : Raw} (k : String)
    (h : readValue fuel cs = some (v, some '\x7d' :: rest)) :
    readMembers (fuel + 1) ((quoted k).map some ++ some ':' :: cs) = some ([(some k, v)], rest) := by
  have hk := readString_quoted k (some ':' :: cs)
  rw [readMembers, quoted_eq, List.map_cons, List.cons_append, skipBlanks_cons rfl]
  simp only [hk]
  rw [skipBlanks_cons rfl]
  simp only [h]
  rfl

theorem readMembers_more {fuel : Nat} {cs rest : List Cell} {v : Raw} (k : String)
    (h : readValue fuel cs = some (v, some ',' :: rest)) :
    readMembers (fuel + 1) ((quoted k).map some ++ some ':' :: cs) =
      (readMembers fuel rest).map fun p => ((some k, v) :: p.1, p.2) := by
  have hk := readString_quoted k (some ':' :: cs)
  rw [readMembers, quoted_eq, List.map_cons, List.cons_append, skipBlanks_cons rfl]
  simp only [hk]
  rw [skipBlanks_cons rfl]
  simp only [h]
  rfl

-- The fuel has to reach as far as the text, since each call takes at least one cell.
mutual

theorem readValue_chars : ∀ (v : Value) (fuel : Nat) (rest : List Cell),
    v.chars.length ≤ fuel → Closed rest →
      readValue fuel (v.chars.map some ++ rest) = some (v.reading, rest)
  | v, 0, _, h, _ => absurd (List.length_eq_zero_iff.1 (Nat.le_zero.1 h)) (chars_ne_nil v)
  | .null, fuel + 1, _, _, _ => rfl
  | .bool true, fuel + 1, _, _, _ => rfl
  | .bool false, fuel + 1, _, _, _ => rfl
  | .number x, fuel + 1, _, _, hr => readValue_number fuel x hr
  | .string s, fuel + 1, rest, _, _ => by
    rw [Value.chars, quoted_eq]
    show (readString ((s.toList.flatMap escaped ++ ['"']).map some ++ rest)).map _ = _
    rw [readString_quoted]
    rfl
  | .array [], fuel + 1, _, _, _ => rfl
  | .array (v :: vs), fuel + 1, rest, h, hr => by
    simp only [Value.chars, List.length_cons, List.length_append] at h
    have hv := readValue_chars v fuel _ (by omega) (closed_itemsChars vs rest)
    have hitems := readItems_chars v vs fuel rest (by omega)
    simp only [Value.chars, List.map_cons, List.map_append, List.cons_append, List.append_assoc]
    rw [readValue_array]
    split
    · next hb =>
      rw [readValue_bracket fuel hb] at hv
      cases hv
    · rw [hitems]
      rfl
  | .object [], fuel + 1, _, _, _ => rfl
  | .object ((k, v) :: ms), fuel + 1, rest, h, hr => by
    simp only [Value.chars, List.length_cons, List.length_append] at h
    have hmembers := readMembers_chars k v ms fuel rest (by omega)
    rw [quoted_eq] at hmembers
    simp only [Value.chars, quoted_eq, List.map_cons, List.map_append, List.cons_append,
      List.append_assoc] at hmembers ⊢
    show (readMembers fuel (some '"' :: _)).map _ = _
    rw [hmembers]
    rfl

theorem readItems_chars : ∀ (v : Value) (vs : List Value) (fuel : Nat) (rest : List Cell),
    v.chars.length + (itemsChars vs).length ≤ fuel →
      readItems fuel (v.chars.map some ++ ((itemsChars vs).map some ++ rest)) =
        some (v.reading :: itemsReading vs, rest)
  | v, vs, 0, _, h =>
    absurd (List.length_eq_zero_iff.1 (Nat.le_zero.1 (Nat.le_trans (Nat.le_add_right _ _) h)))
      (chars_ne_nil v)
  | v, [], fuel + 1, rest, h => by
    simp only [itemsChars, List.length_cons, List.length_nil] at h
    have hv := readValue_chars v fuel _ (by omega) (closed_itemsChars [] rest)
    exact readItems_last hv
  | v, v' :: vs, fuel + 1, rest, h => by
    simp only [itemsChars, List.length_cons, List.length_append] at h
    have hv := readValue_chars v fuel _ (by omega) (closed_itemsChars (v' :: vs) rest)
    have hitems := readItems_chars v' vs fuel rest (by omega)
    simp only [itemsChars, List.map_cons, List.map_append, List.cons_append,
      List.append_assoc] at hv ⊢
    rw [readItems_more hv, hitems]
    rfl

theorem readMembers_chars : ∀ (k : String) (v : Value) (ms : List (String × Value)) (fuel : Nat)
    (rest : List Cell), (quoted k).length + v.chars.length + (membersChars ms).length ≤ fuel →
      readMembers fuel ((quoted k).map some ++
        (some ':' :: (v.chars.map some ++ ((membersChars ms).map some ++ rest)))) =
        some ((some k, v.reading) :: membersReading ms, rest)
  | k, v, ms, 0, _, h => by simp [quoted] at h
  | k, v, [], fuel + 1, rest, h => by
    simp only [membersChars, List.length_cons, List.length_nil] at h
    have hv := readValue_chars v fuel _ (by omega) (closed_membersChars [] rest)
    exact readMembers_last k hv
  | k, v, (k', v') :: ms, fuel + 1, rest, h => by
    simp only [membersChars, List.length_cons, List.length_append] at h
    have hv := readValue_chars v fuel _ (by omega) (closed_membersChars ((k', v') :: ms) rest)
    have hmembers := readMembers_chars k' v' ms fuel rest (by omega)
    simp only [membersChars, List.map_cons, List.map_append, List.cons_append,
      List.append_assoc] at hv ⊢
    rw [readMembers_more k hv, hmembers]
    rfl

end

/-- The characters of a value are read as it. -/
theorem ofCells?_chars (v : Value) : Raw.ofCells? (v.chars.map some) = some v.reading := by
  have hread := readValue_chars v (2 * (v.chars.map some).length + 2) []
    (by rw [List.length_map]; omega) trivial
  rw [List.append_nil] at hread
  unfold Raw.ofCells?
  rw [hread]
  rfl

/-- The text of a value is read as it. -/
theorem ofText?_compact (v : Value) : Raw.ofText? v.compact = some v.reading := by
  unfold Raw.ofText? Value.compact
  rw [String.toList_ofList]
  exact ofCells?_chars v

/-- The bytes of a value are read as it. -/
theorem ofBytes?_bytes (v : Value) : Raw.ofBytes? v.bytes = some v.reading := by
  have hcells : Utf8.parts none v.bytes = v.chars.map some := by
    have h := Utf8.parts_encode v.compact []
    rw [List.append_nil] at h
    unfold Value.bytes
    rw [h, Value.compact, String.toList_ofList]
    exact List.append_nil _
  unfold Raw.ofBytes?
  rw [hcells]
  exact ofCells?_chars v

theorem reading_eq_of_bytes_eq {v w : Value} (h : v.bytes = w.bytes) : v.reading = w.reading := by
  have hv := ofBytes?_bytes v
  rw [h, ofBytes?_bytes w] at hv
  exact (Option.some.inj hv).symm

/-- What a decoder makes of the text of a value. -/
theorem Decode.ofText?_compact {α : Type} (d : Decoder α) (v : Value) :
    Decode.ofText? d v.compact = d maxNesting v.reading := by
  unfold Decode.ofText?
  rw [Json.ofText?_compact]
  rfl

/-- What a decoder makes of the bytes of a value. -/
theorem Decode.ofBytes?_bytes {α : Type} (d : Decoder α) (v : Value) :
    Decode.ofBytes? d v.bytes = d maxNesting v.reading := by
  unfold Decode.ofBytes?
  rw [Json.ofBytes?_bytes]
  rfl

end OciCompose.Json
