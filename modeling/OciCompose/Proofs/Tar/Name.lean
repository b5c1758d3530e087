import OciCompose.Tar.Name
import OciCompose.Proofs.Path
import OciCompose.Proofs.Tar.Header

/-
  What is in the name and link fields of entries.
  `fillName_join`: a path of names always has a place. If it is not long its bytes are in the field; if
  it is, what is left of it after the cut still goes in. `fillLink_join` says it of link targets.
-/

namespace OciCompose.Tar

open OciCompose.Path

/-- The UTF-8 bytes of some characters. -/
def encodeChars (cs : List Char) : Bytes := cs.flatMap String.utf8EncodeChar

theorem encodeChars_append (a b : List Char) : encodeChars (a ++ b) = encodeChars a ++ encodeChars b :=
  List.flatMap_append

theorem encode_eq_encodeChars (s : String) : Utf8.encode s = encodeChars s.toList := rfl

theorem encodeChars_inj {a b : List Char} (h : encodeChars a = encodeChars b) : a = b := by
  rw [← String.toList_ofList (l := a), ← String.toList_ofList (l := b), ← encode_eq_encodeChars,
    ← encode_eq_encodeChars] at h
  have hs := congrArg Utf8.decodeLossy h
  rw [Utf8.decodeLossy_encode, Utf8.decodeLossy_encode] at hs
  exact String.ofList_injective hs

theorem byteLength_eq (cs : List Char) : byteLength cs = (encodeChars cs).length := rfl

theorem byteLength_append (a b : List Char) : byteLength (a ++ b) = byteLength a + byteLength b := by
  rw [byteLength_eq, encodeChars_append, List.length_append]
  rfl

theorem byteLength_cons (c : Char) (cs : List Char) :
    byteLength (c :: cs) = c.utf8Size + byteLength cs := by
  unfold byteLength
  rw [List.flatMap_cons, List.length_append, String.length_utf8EncodeChar]

theorem byteLength_le_of_isPrefix {a b : List Char} (h : a <+: b) : byteLength a ≤ byteLength b := by
  obtain ⟨t, rfl⟩ := h
  rw [byteLength_append]
  exact Nat.le_add_right _ _

/-- Only NUL has a zero byte. -/
theorem zero_not_mem_encodeChars {cs : List Char} (h : '\x00' ∉ cs) : 0 ∉ encodeChars cs := by
  intro hmem
  obtain ⟨c, hc, hzero⟩ := List.mem_flatMap.1 hmem
  have hne : c.val.toNat ≠ 0 := by
    intro hval
    have hnul : c = '\x00' := Char.ext (UInt32.toNat_inj.1 hval)
    exact h (hnul ▸ hc)
  unfold String.utf8EncodeChar at hzero
  generalize c.val.toNat = v at hne hzero
  dsimp only at hzero
  repeat' split at hzero
  all_goals
    simp only [List.mem_cons, List.not_mem_nil, or_false, ← UInt8.toNat_inj] at hzero
    simp at hzero
    omega

theorem contains_encodeChars {cs : List Char} (h : '\x00' ∉ cs) :
    (encodeChars cs).contains 0 = false := by
  rw [List.contains_eq_mem, decide_eq_false_iff_not]
  exact zero_not_mem_encodeChars h

/-! ## Filling -/

theorem length_overwrite (fld : Bytes) (offset : Nat) (b : Bytes) :
    (overwrite fld offset b).length = fld.length := by
  unfold overwrite
  simp only [List.length_take, List.length_append, List.length_cons, List.length_drop]
  omega

theorem length_fill (fld : Bytes) (offset : Nat) (ps : List Piece) :
    (fill fld offset ps).1.length = fld.length := by
  induction ps generalizing fld offset with
  | nil => rfl
  | cons p ps ih =>
    cases p with
    | refused f => rfl
    | bytes b =>
      unfold fill
      split
      · rfl
      split
      · rfl
      rw [ih, length_overwrite]

/-- Texts without NUL go into a field exactly if there is room for them. -/
theorem fill_ofChars {ts : List (List Char)} (h : '\x00' ∉ ts.flatten) (fld : Bytes) (offset : Nat) :
    (fill fld offset (ts.map Piece.ofChars)).2 = none ↔ byteLength ts.flatten ≤ fld.length - offset := by
  induction ts generalizing fld offset with
  | nil => exact iff_of_true rfl (Nat.zero_le _)
  | cons t ts ih =>
    rw [List.flatten_cons] at h ⊢
    have hzero : (encodeChars t).contains 0 = false := contains_encodeChars fun hmem =>
      h (List.mem_append_left _ hmem)
    rw [List.map_cons, Piece.ofChars, fill, ← encodeChars, hzero, byteLength_append, byteLength_eq t]
    split
    · refine iff_of_false (by simp) ?_
      omega
    · rw [if_neg Bool.false_ne_true, ih fun hmem => h (List.mem_append_right _ hmem), length_overwrite]
      omega

/-- A name field whose left part is filled. -/
def leftPart (b : Bytes) : Bytes := b ++ List.replicate (nameWidth - b.length) 0

theorem overwrite_leftPart {b e : Bytes} (h : b.length + e.length ≤ nameWidth) :
    overwrite (leftPart b) b.length e = leftPart (b ++ e) := by
  have hwidth : (leftPart b).length = nameWidth := by
    unfold leftPart
    rw [List.length_append, List.length_replicate]
    omega
  have hbefore : (leftPart b).take b.length = b := List.take_left
  have hbehind : (leftPart b).drop (b.length + e.length + 1) =
      List.replicate (nameWidth - b.length - (e.length + 1)) 0 := by
    unfold leftPart
    rw [List.drop_append, List.drop_of_length_le (by omega), List.nil_append, List.drop_replicate]
    congr 1
    omega
  unfold overwrite
  rw [hwidth, hbefore, hbehind, ← List.replicate_succ, List.take_append,
    List.take_of_length_le (by rw [List.length_append]; exact h), List.take_replicate]
  unfold leftPart
  rw [List.length_append]
  congr 2
  omega

theorem fill_leftPart {ts : List (List Char)} (h : '\x00' ∉ ts.flatten) {b : Bytes}
    (hb : b.length + byteLength ts.flatten ≤ nameWidth) :
    fill (leftPart b) b.length (ts.map Piece.ofChars) =
      (leftPart (b ++ encodeChars ts.flatten), none) := by
  induction ts generalizing b with
  | nil =>
    rw [List.flatten_nil]
    exact congrArg (fun x => (leftPart x, none)) (List.append_nil b).symm
  | cons t ts ih =>
    rw [List.flatten_cons] at h hb ⊢
    rw [byteLength_append, byteLength_eq t] at hb
    have hroom : (leftPart b).length - b.length = nameWidth - b.length := by
      unfold leftPart
      rw [List.length_append, List.length_replicate, Nat.add_sub_cancel_left]
    have hzero : (encodeChars t).contains 0 = false := contains_encodeChars fun hmem =>
      h (List.mem_append_left _ hmem)
    have hrest := ih (fun hmem => h (List.mem_append_right _ hmem)) (b := b ++ encodeChars t)
      (by rw [List.length_append]; omega)
    rw [List.length_append] at hrest
    rw [List.map_cons, Piece.ofChars, fill, ← encodeChars, if_neg (by omega), hzero,
      if_neg Bool.false_ne_true, overwrite_leftPart (by omega), hrest, encodeChars_append,
      List.append_assoc]

/-- A field that is filled from the left holds nothing but the bytes that went in. -/
theorem fill_leftPart_eq_none {ps : List Piece} {b fld : Bytes} (hb : b.length ≤ nameWidth)
    (h : fill (leftPart b) b.length ps = (fld, none)) :
    ∃ bss : List Bytes, ps = bss.map Piece.bytes ∧ 0 ∉ bss.flatten ∧
      fld = leftPart (b ++ bss.flatten) := by
  induction ps generalizing b with
  | nil =>
    obtain ⟨rfl, -⟩ := Prod.mk.inj h
    exact ⟨[], rfl, List.not_mem_nil, by rw [List.flatten_nil, List.append_nil]⟩
  | cons p ps ih =>
    cases p with
    | refused f => cases h
    | bytes e =>
      have hroom : (leftPart b).length - b.length = nameWidth - b.length := by
        unfold leftPart
        rw [List.length_append, List.length_replicate, Nat.add_sub_cancel_left]
      rw [fill, hroom] at h
      split at h
      · cases h
      · next hfits =>
        split at h
        · cases h
        · next hzero =>
          rw [overwrite_leftPart (by omega), ← List.length_append] at h
          obtain ⟨bss, rfl, hnul, rfl⟩ := ih (by rw [List.length_append]; omega) h
          refine ⟨e :: bss, rfl, ?_, by rw [List.flatten_cons, List.append_assoc]⟩
          rw [List.flatten_cons, List.mem_append]
          rintro (hmem | hmem)
          · exact hzero (List.contains_iff_mem.2 hmem)
          · exact hnul hmem

/-! ## Pieces -/

theorem ofChars_inj {a b : List Char} (h : Piece.ofChars a = .ofChars b) : a = b :=
  encodeChars_inj (Piece.bytes.inj h)

/-- Pieces other than slashes get slashes between them. -/
theorem withSlashes_ofChars {segments : List (List Char)} (h : ∀ s ∈ segments, '/' ∉ s) :
    withSlashes (segments.map Piece.ofChars) = (segments.intersperse ['/']).map Piece.ofChars := by
  induction segments with
  | nil => rfl
  | cons a rest ih =>
    cases rest with
    | nil => rfl
    | cons b rest =>
      have hslash : Piece.ofChars a ≠ slash := fun heq => h a List.mem_cons_self
        (ofChars_inj (b := ['/']) heq ▸ List.mem_cons_self)
      rw [List.map_cons, List.map_cons, withSlashes,
        if_neg fun hor => hor.elim hslash Bool.false_ne_true, List.intersperse_cons_cons, List.map_cons,
        List.map_cons, ← ih fun s hs => h s (List.mem_cons_of_mem _ hs)]
      rfl

theorem flatten_intersperse (segments : List (List Char)) :
    (segments.intersperse ['/']).flatten = join segments := rfl

/-- What is finished for a path, a slash at whose end is kept. -/
theorem finish_ofChars (path : List Char) {segments : List (List Char)} (hne : segments ≠ [])
    (h : ∀ s ∈ segments, '/' ∉ s) :
    finish path (segments.map Piece.ofChars) =
      (segments.intersperse ['/'] ++ if path.getLast? = some '/' then [['/']] else []).map
        Piece.ofChars := by
  unfold finish
  rw [if_neg (by simpa using hne), withSlashes_ofChars h, List.map_append]
  split <;> rfl

theorem finish_join {segments : List (List Char)} (hne : segments ≠ [])
    (h : ∀ s ∈ segments, IsSegment s) :
    finish (join segments) (segments.map Piece.ofChars) =
      (segments.intersperse ['/']).map Piece.ofChars := by
  rw [finish_ofChars _ hne fun s hs => (h s hs).slash_not_mem, if_neg (getLast?_join_ne hne h),
    List.append_nil]

theorem nameComponents_named (cut alone : Bool) {names : List (List Char)} (h : ∀ n ∈ names, IsName n)
    (rest : List Component) :
    nameComponents cut alone (names.map Component.named ++ rest) =
      names.map Piece.ofChars ++ nameComponents cut alone rest := by
  induction names with
  | nil => rfl
  | cons n names ih =>
    rw [List.map_cons, (h n List.mem_cons_self).named, List.map_cons, List.cons_append, nameComponents,
      ih fun x hx => h x (List.mem_cons_of_mem _ hx), List.cons_append]

theorem namePieces_join {names : List (List Char)} (hne : names ≠ []) (h : ∀ n ∈ names, IsName n) :
    namePieces false (join names) = (names.intersperse ['/']).map Piece.ofChars := by
  have hcomponents := nameComponents_named false
    ((components (join names)).length == 1) h []
  rw [List.append_nil, nameComponents, List.append_nil] at hcomponents
  unfold namePieces
  dsimp only
  rw [components_join hne fun n hn => (h n hn).toIsSegment] at hcomponents ⊢
  rw [hcomponents]
  exact finish_join hne fun n hn => (h n hn).toIsSegment

theorem linkPieces_join {segments : List (List Char)} (hne : segments ≠ [])
    (h : ∀ s ∈ segments, IsSegment s) :
    linkPieces (join segments) = (segments.intersperse ['/']).map Piece.ofChars := by
  have htexts : linkComponents (segments.map Component.named) = segments.map Piece.ofChars := by
    unfold linkComponents
    rw [List.map_map]
    exact List.map_congr_left fun s _ => congrArg Piece.ofChars (Component.text_named s)
  unfold linkPieces
  rw [components_join hne h, htexts]
  exact finish_join hne h

/-- What is left of a path of names after a cut, if it is more than a dot. -/
theorem namePieces_of_isPrefix {names : List (List Char)} (hne : names ≠ [])
    (h : ∀ n ∈ names, IsName n) {cs : List Char} (hcs : cs <+: join names) (hlong : 1 < cs.length) :
    ∃ ts : List (List Char), namePieces true cs = ts.map Piece.ofChars ∧ ts.flatten <+: cs := by
  obtain ⟨init, last, rfl, hinit, n, hn, hlast⟩ := exists_join_of_isPrefix hne hcs
  have hslash : '/' ∉ last := fun hmem => (h n hn).slash_not_mem (hlast.subset hmem)
  have hnames : ∀ s ∈ init, IsName s := fun s hs => h s (hinit s hs)
  have hinner : ∀ s ∈ init, '/' ∉ s := fun s hs => (hnames s hs).slash_not_mem
  have halone : init = [] → 1 < last.length := by
    rintro rfl
    rwa [List.nil_append, join_singleton] at hlong
  have hcomponents := components_join_append (fun s hs => (hnames s hs).toIsSegment) hslash
    fun hnil hdot => by simpa [hdot] using halone hnil
  have hpieces : namePieces true (join (init ++ [last])) = finish (join (init ++ [last]))
      (init.map Piece.ofChars ++ nameComponents true
        ((components (join (init ++ [last]))).length == 1) (ofSegment last).toList) := by
    unfold namePieces
    dsimp only
    rw [hcomponents, nameComponents_named true _ hnames]
  rw [hpieces]
  by_cases hskip : last = [] ∨ last = ['.']
  · -- the piece at the end disappears, and so may the slash before it
    have hinitne : init ≠ [] := by
      intro hnil
      have := halone hnil
      rcases hskip with rfl | rfl <;> simp at this
    have hnone : ofSegment last = none := if_pos hskip
    rw [hnone, Option.toList_none, nameComponents, List.append_nil, finish_ofChars _ hinitne hinner]
    refine ⟨_, rfl, ?_⟩
    rw [List.flatten_append, flatten_intersperse, join_append_singleton hinitne,
      List.prefix_append_right_inj]
    split
    · exact List.prefix_append ['/'] last
    · exact List.nil_prefix
  · have hkept : nameComponents true ((components (join (init ++ [last]))).length == 1)
        (ofSegment last).toList = [Piece.ofChars last] := by
      unfold ofSegment
      rw [if_neg hskip]
      split
      · next hparent =>
        rw [hparent]
        rfl
      · rfl
    have hall : ∀ s ∈ init ++ [last], '/' ∉ s := by
      intro s hs
      rcases List.mem_append.1 hs with hs | hs
      · exact hinner s hs
      · exact List.mem_singleton.1 hs ▸ hslash
    have hend : (join (init ++ [last])).getLast? ≠ some '/' := fun hslashed =>
      hskip (.inl ((getLast?_join_append hslash).1 hslashed).2)
    have hmap : init.map Piece.ofChars ++ [Piece.ofChars last] = (init ++ [last]).map Piece.ofChars := by
      rw [List.map_append, List.map_singleton]
    rw [hkept, hmap, finish_ofChars _ (by simp) hall, if_neg hend, List.append_nil]
    exact ⟨_, rfl, flatten_intersperse _ ▸ List.prefix_rfl⟩

/-! ## Fields -/

/-- A field holds a text, or the text is long. -/
structure Filled.Holds (f : Filled) (text : List Char) : Prop where
  width : f.bytes.length = nameWidth
  short : f.long = false → untilNul f.bytes = encodeChars text

/-- What is read of a text that a field was filled with: the field, or the entry of its own. -/
def Filled.carried (f : Filled) (text : List Char) : Bytes :=
  if f.long then encodeChars text else untilNul f.bytes

theorem Filled.carried_long {f : Filled} (h : f.long = true) (text : List Char) :
    f.carried text = encodeChars text := if_pos h

theorem Filled.carried_short {f : Filled} (h : f.long = false) (text : List Char) :
    f.carried text = untilNul f.bytes := if_neg (Bool.eq_false_iff.1 h)

theorem Filled.Holds.carried_eq {f : Filled} {text : List Char} (h : f.Holds text) :
    f.carried text = encodeChars text := by
  cases hlong : f.long with
  | true => exact Filled.carried_long hlong text
  | false => exact (Filled.carried_short hlong text).trans (h.short hlong)

theorem width_of_fillName {path : List Char} {f : Filled} (h : fillName path = .ok f) :
    f.bytes.length = nameWidth := by
  have hfirst := length_fill blank 0 (namePieces false path)
  have hsecond := length_fill (fill blank 0 (namePieces false path)).1 0
    (namePieces true (cutTo nameWidth path))
  rw [hfirst] at hsecond
  unfold fillName at h
  split at h
  · next fld hfill =>
    rw [hfill] at hfirst
    cases h
    exact hfirst
  · next fld fault hfill =>
    rw [hfill] at hsecond
    split at h
    · cases h
    split at h
    · next cut hcut =>
      rw [hcut] at hsecond
      cases h
      exact hsecond
    · cases h

theorem width_of_fillLink {name f : Filled} {target : List Char} (h : fillLink name target = .ok f) :
    f.bytes.length = nameWidth := by
  have hfirst := length_fill blank 0 (linkPieces target)
  unfold fillLink at h
  split at h
  · next fld hfill =>
    rw [hfill] at hfirst
    cases h
    exact hfirst
  · next fld fault hfill =>
    rw [hfill] at hfirst
    split at h
    · cases h
    · cases h
      exact hfirst

theorem cutTo_isPrefix (room : Nat) (cs : List Char) : cutTo room cs <+: cs := by
  induction cs generalizing room with
  | nil => exact List.nil_prefix
  | cons c cs ih =>
    unfold cutTo
    split
    · exact (List.prefix_cons_inj c).2 (ih _)
    · exact List.nil_prefix

theorem byteLength_cutTo (room : Nat) (cs : List Char) : byteLength (cutTo room cs) ≤ room := by
  induction cs generalizing room with
  | nil => exact Nat.zero_le _
  | cons c cs ih =>
    unfold cutTo
    split
    · have := ih (room - c.utf8Size)
      rw [byteLength_cons]
      omega
    · exact Nat.zero_le _

/-- A character has four bytes at most, so a text that is cut has two left. -/
theorem one_lt_length_cutTo {room : Nat} {cs : List Char} (hroom : 8 ≤ room)
    (h : room < byteLength cs) : 1 < (cutTo room cs).length := by
  match cs with
  | [] => exact absurd h (Nat.not_lt_zero _)
  | [a] =>
    have ha := a.utf8Size_le_four
    rw [byteLength_cons, byteLength_eq] at h
    simp only [encodeChars, List.flatMap_nil, List.length_nil] at h
    omega
  | a :: b :: rest =>
    have ha := a.utf8Size_le_four
    have hb := b.utf8Size_le_four
    rw [cutTo, if_pos (by omega), cutTo, if_pos (by omega)]
    simp

theorem length_blank : blank.length = nameWidth := List.length_replicate

/-- Texts without NUL that go into an empty field are read back from it. -/
theorem fill_blank {ts : List (List Char)} (h : '\x00' ∉ ts.flatten)
    (hroom : byteLength ts.flatten ≤ nameWidth) :
    ∃ fld, fill blank 0 (ts.map Piece.ofChars) = (fld, none) ∧ fld.length = nameWidth ∧
      untilNul fld = encodeChars ts.flatten := by
  have hfill := fill_leftPart h (b := []) (by rw [List.length_nil, Nat.zero_add]; exact hroom)
  refine ⟨_, hfill, ?_, untilNul_append (zero_not_mem_encodeChars h) _⟩
  rw [List.nil_append, leftPart, List.length_append, List.length_replicate, ← byteLength_eq]
  omega

/-- What is read of a field that took in all its pieces. -/
theorem untilNul_of_fill_blank {ps : List Piece} {fld : Bytes} (h : fill blank 0 ps = (fld, none)) :
    ∃ bss : List Bytes, ps = bss.map Piece.bytes ∧ untilNul fld = bss.flatten := by
  obtain ⟨bss, hps, hnul, rfl⟩ := fill_leftPart_eq_none (b := []) (Nat.zero_le _) h
  refine ⟨bss, hps, ?_⟩
  rw [List.nil_append]
  exact untilNul_append hnul _

/-- A text that is longer than an empty field does not go in. -/
theorem exists_fill_blank {ts : List (List Char)} (h : '\x00' ∉ ts.flatten)
    (hlong : ¬ byteLength ts.flatten ≤ nameWidth) :
    ∃ fld fault, fill blank 0 (ts.map Piece.ofChars) = (fld, some fault) ∧ fld.length = nameWidth := by
  have hlength := length_fill blank 0 (ts.map Piece.ofChars)
  have hnone := fill_ofChars h blank 0
  rw [length_blank] at hlength hnone
  cases hfill : fill blank 0 (ts.map Piece.ofChars) with
  | mk fld fault =>
    rw [hfill] at hlength hnone
    cases fault with
    | none => exact absurd (hnone.1 rfl) hlong
    | some fault => exact ⟨fld, fault, rfl, hlength⟩

/-- A path of names has a place. -/
theorem fillName_join {names : List (List Char)} (hne : names ≠ []) (h : ∀ n ∈ names, IsName n) :
    ∃ f, fillName (join names) = .ok f ∧ f.Holds (join names) := by
  have hnul : '\x00' ∉ (names.intersperse ['/']).flatten :=
    nul_not_mem_join fun n hn => (h n hn).toIsSegment
  unfold fillName
  rw [namePieces_join hne h]
  by_cases hroom : byteLength (join names) ≤ nameWidth
  · obtain ⟨fld, hfill, hwidth, hread⟩ := fill_blank hnul hroom
    rw [hfill]
    exact ⟨_, rfl, hwidth, fun _ => hread⟩
  · obtain ⟨fld, fault, hfill, hwidth⟩ := exists_fill_blank hnul hroom
    have hprefix := cutTo_isPrefix nameWidth (join names)
    have hcut := one_lt_length_cutTo (by decide) (Nat.lt_of_not_le hroom)
    obtain ⟨ts, hpieces, hts⟩ := namePieces_of_isPrefix hne h hprefix hcut
    have hnulCut : '\x00' ∉ ts.flatten := fun hmem => hnul ((hts.trans hprefix).subset hmem)
    have hfits := Nat.le_trans (byteLength_le_of_isPrefix hts) (byteLength_cutTo nameWidth (join names))
    have hagain := (fill_ofChars hnulCut fld 0).2 (by rw [hwidth]; exact hfits)
    have hwidthAgain := length_fill fld 0 (ts.map Piece.ofChars)
    rw [hfill]
    dsimp only
    rw [if_neg fun hlt => hroom (Nat.le_of_lt hlt), hpieces]
    cases hres : fill fld 0 (ts.map Piece.ofChars) with
    | mk cut fault =>
      rw [hres] at hagain hwidthAgain
      cases hagain
      exact ⟨_, rfl, hwidthAgain.trans hwidth, nofun⟩

/-- A target of segments has a place. -/
theorem fillLink_join (name : Filled) {segments : List (List Char)} (hne : segments ≠ [])
    (h : ∀ s ∈ segments, IsSegment s) :
    ∃ f, fillLink name (join segments) = .ok f ∧ f.Holds (join segments) := by
  have hnul : '\x00' ∉ (segments.intersperse ['/']).flatten := nul_not_mem_join h
  unfold fillLink
  rw [linkPieces_join hne h]
  by_cases hroom : byteLength (join segments) ≤ nameWidth
  · obtain ⟨fld, hfill, hwidth, hread⟩ := fill_blank hnul hroom
    rw [hfill]
    exact ⟨_, rfl, hwidth, fun _ => hread⟩
  · obtain ⟨fld, fault, hfill, hwidth⟩ := exists_fill_blank hnul hroom
    rw [hfill]
    dsimp only
    rw [if_neg fun hlt => hroom (Nat.le_of_lt hlt)]
    exact ⟨_, rfl, hwidth, nofun⟩

end OciCompose.Tar
