import OciCompose.Json.Reader
import OciCompose.Proofs.Decimal

/-
  Numbers in JSON text.
  A `Numeral` is the text of a number by its parts. The reader takes a proper one in whole, up to
  what closes a value (`readNumber_unsigned`), and the text of every number is proper
  (`exists_numeral`), doubles included. `Number.Whole.reading_eq`: integers are read back.
-/

namespace OciCompose.Json

/-! ## Digits -/

/-- What stands behind a value inside another one, or at the end of the text. -/
def Closed : List Cell → Prop
  | [] => True
  | c :: _ => c = some ',' ∨ c = some ']' ∨ c = some '\x7d'

/-- No digit comes next. -/
def NoDigit (cs : List Cell) : Prop :=
  ∀ c rest, cs = some c :: rest → c.isDigit = false

theorem Closed.noDigit {cs : List Cell} (h : Closed cs) : NoDigit cs := by
  intro c rest hc
  subst hc
  rcases h with h | h | h <;> cases h <;> rfl

def digitValue (c : Char) : Nat := c.toNat - 48

/-- One or more digits. -/
structure Digits (cs : List Char) : Prop where
  ne_nil : cs ≠ []
  isDigit : ∀ c ∈ cs, c.isDigit = true

theorem isDigit_iff (c : Char) : c.isDigit = true ↔ '0' ≤ c ∧ c ≤ '9' := by
  simp [Char.isDigit, Char.le_def]

theorem isDigit_ne {c d : Char} (hc : c.isDigit = true) (hd : d.isDigit = false) : c ≠ d := by
  intro h
  rw [h, hd] at hc
  cases hc

theorem digitValue_eq_zero {c : Char} (hc : c.isDigit = true) (h : digitValue c = 0) : c = '0' := by
  have hlow := (isDigit_iff c).1 hc
  apply Char.toNat_inj.1
  unfold digitValue at h
  have : 48 ≤ c.toNat := hlow.1
  show c.toNat = 48
  omega

theorem digits_of_noDigit {cs : List Cell} (h : NoDigit cs) : digits cs = ([], cs) := by
  match cs with
  | [] => rfl
  | none :: cs => rfl
  | some c :: cs =>
    have hc := h c cs rfl
    unfold digits
    rw [if_neg]
    rw [← isDigit_iff, hc]
    exact Bool.false_ne_true

theorem digits_append {cs : List Char} (hc : ∀ c ∈ cs, c.isDigit = true) {rest : List Cell}
    (hr : NoDigit rest) : digits (cs.map some ++ rest) = (cs.map digitValue, rest) := by
  induction cs with
  | nil => exact digits_of_noDigit hr
  | cons c cs ih =>
    have hrest := ih fun x hx => hc x (List.mem_cons_of_mem _ hx)
    rw [List.map_cons, List.cons_append]
    unfold digits
    rw [if_pos ((isDigit_iff c).1 (hc c List.mem_cons_self)), hrest]
    rfl

theorem digits_toDigits (n : Nat) : Digits (Nat.toDigits 10 n) where
  ne_nil := Nat.toDigits_ne_nil
  isDigit := fun _ hc => Nat.isDigit_of_mem_toDigits (by decide) (by decide) hc

/-! ## Numerals -/

/-- The text of a number by its parts; an exponent is written with its sign, true for a minus. -/
structure Numeral where
  negative : Bool
  whole : List Char
  fraction : Option (List Char) := none
  exponent : Option (Bool × List Char) := none

namespace Numeral

def fractionChars : Option (List Char) → List Char
  | some ds => '.' :: ds
  | none => []

def exponentChars : Option (Bool × List Char) → List Char
  | some (negative, ds) => 'e' :: (if negative then '-' else '+') :: ds
  | none => []

/-- The text behind the sign. -/
def unsigned (n : Numeral) : List Char :=
  n.whole ++ fractionChars n.fraction ++ exponentChars n.exponent

def chars (n : Numeral) : List Char := (if n.negative then ['-'] else []) ++ n.unsigned

/-- What the reader takes a numeral for. -/
def spelling (n : Numeral) : Spelling where
  negative := n.negative
  whole := n.whole.map digitValue
  fraction := n.fraction.map fun ds => ds.map digitValue
  exponent := n.exponent.map fun e => (e.1, e.2.map digitValue)

/-- A numeral as JSON has them. -/
structure Proper (n : Numeral) : Prop where
  whole : Digits n.whole
  leading : n.whole.head? = some '0' → n.whole.length = 1
  fraction : ∀ ds, n.fraction = some ds → Digits ds
  exponent : ∀ e, n.exponent = some e → Digits e.2

end Numeral

theorem readExponent_chars (e : Option (Bool × List Char)) (he : ∀ x, e = some x → Digits x.2)
    {rest : List Cell} (hr : Closed rest) :
    readExponent ((Numeral.exponentChars e).map some ++ rest) =
      some (e.map fun x => (x.1, x.2.map digitValue), rest) := by
  cases e with
  | none =>
    cases rest with
    | nil => rfl
    | cons c rest => rcases hr with h | h | h <;> cases h <;> rfl
  | some x =>
    obtain ⟨negative, ds⟩ := x
    have hds := he _ rfl
    have hread : ∀ b, readExponentDigits b (ds.map some ++ rest) =
        some (some (b, ds.map digitValue), rest) := by
      intro b
      unfold readExponentDigits
      rw [digits_append hds.isDigit hr.noDigit]
      have hne := hds.ne_nil
      cases ds with
      | nil => exact absurd rfl hne
      | cons d ds => rfl
    cases negative
    · exact hread false
    · exact hread true

/-- What comes behind the fraction is neither a digit nor a point. -/
theorem exponentChars_append (e : Option (Bool × List Char)) {rest : List Cell} (hr : Closed rest) :
    NoDigit ((Numeral.exponentChars e).map some ++ rest) ∧
      ∀ cs, (Numeral.exponentChars e).map some ++ rest ≠ some '.' :: cs := by
  cases e with
  | none =>
    refine ⟨hr.noDigit, fun cs h => ?_⟩
    have h : rest = some '.' :: cs := h
    rw [h] at hr
    rcases hr with h | h | h <;> cases h
  | some x =>
    refine ⟨fun c cs h => ?_, fun cs h => ?_⟩
    · cases h
      rfl
    · cases h

theorem readFraction_chars (f : Option (List Char)) (hf : ∀ ds, f = some ds → Digits ds)
    {rest : List Cell} (hr : NoDigit rest) (hp : ∀ cs, rest ≠ some '.' :: cs) :
    readFraction ((Numeral.fractionChars f).map some ++ rest) =
      some (f.map fun ds => ds.map digitValue, rest) := by
  cases f with
  | none =>
    show readFraction rest = _
    unfold readFraction
    split
    · next cs => exact absurd rfl (hp cs)
    · rfl
  | some ds =>
    have hds := hf ds rfl
    have hread := digits_append hds.isDigit hr
    show readFraction (some '.' :: (ds.map some ++ rest)) = _
    simp only [readFraction, hread]
    have hne := hds.ne_nil
    cases ds with
    | nil => exact absurd rfl hne
    | cons d ds => rfl

theorem noDigit_fractionChars (f : Option (List Char)) {rest : List Cell} (hr : NoDigit rest) :
    NoDigit ((Numeral.fractionChars f).map some ++ rest) := by
  cases f with
  | none => exact hr
  | some ds =>
    intro c cs h
    cases h
    rfl

/-- A proper numeral is read in whole. -/
theorem readNumber_unsigned (n : Numeral) (hn : n.Proper) {rest : List Cell} (hr : Closed rest) :
    readNumber n.negative (n.unsigned.map some ++ rest) =
      some (.number n.spelling.number?, rest) := by
  obtain ⟨hdigit, hpoint⟩ := exponentChars_append n.exponent hr
  have hwhole := digits_append hn.whole.isDigit (noDigit_fractionChars n.fraction hdigit)
  unfold Numeral.unsigned
  rw [List.map_append, List.map_append, List.append_assoc, List.append_assoc]
  unfold readNumber
  rw [hwhole]
  have hne := hn.whole.ne_nil
  have hzero : ¬ ((n.whole.map digitValue).head? = some 0 ∧ 1 < (n.whole.map digitValue).length) := by
    intro h
    obtain ⟨hhead, hlen⟩ := h
    rw [List.length_map] at hlen
    rw [List.head?_map, Option.map_eq_some_iff] at hhead
    obtain ⟨c, hc, hv⟩ := hhead
    have hmem : c ∈ n.whole := List.mem_of_head? hc
    rw [digitValue_eq_zero (hn.whole.isDigit c hmem) hv] at hc
    have := hn.leading hc
    omega
  split
  · next heq =>
    have := congrArg Prod.fst heq
    exact absurd (List.map_eq_nil_iff.1 this) hne
  · next whole rest' _ heq =>
    cases heq
    rw [if_neg hzero, readFraction_chars n.fraction hn.fraction hdigit hpoint]
    show (readExponent _).bind _ = _
    rw [readExponent_chars n.exponent hn.exponent hr]
    rfl

/-! ## Texts of numbers -/

theorem digits_replicate (n : Nat) : ∀ c ∈ List.replicate n '0', c.isDigit = true := by
  intro c hc
  rw [(List.mem_replicate.1 hc).2]
  rfl

theorem digits_zero : Digits ['0'] := ⟨List.cons_ne_nil _ _, digits_replicate 1⟩

namespace Digits

variable {ds : List Char}

theorem append_zeros (h : Digits ds) (n : Nat) : Digits (ds ++ List.replicate n '0') where
  ne_nil := by simp [h.ne_nil]
  isDigit := fun c hc =>
    (List.mem_append.1 hc).elim (h.isDigit c) (digits_replicate n c)

theorem zeros_append (h : Digits ds) (n : Nat) : Digits (List.replicate n '0' ++ ds) where
  ne_nil := by simp [h.ne_nil]
  isDigit := fun c hc =>
    (List.mem_append.1 hc).elim (digits_replicate n c) (h.isDigit c)

theorem take (h : Digits ds) (n : Nat) : Digits (ds.take (n + 1)) where
  ne_nil := by simp [h.ne_nil]
  isDigit := fun c hc => h.isDigit c (List.mem_of_mem_take hc)

theorem drop (h : Digits ds) {n : Nat} (hn : n < ds.length) : Digits (ds.drop n) where
  ne_nil := fun hnil => Nat.not_le_of_lt hn (List.drop_eq_nil_iff.1 hnil)
  isDigit := fun c hc => h.isDigit c (List.mem_of_mem_drop hc)

/-- Digits as a part that need not be there. -/
theorem of_some (h : Digits ds) : ∀ es, some ds = some es → Digits es := by
  intro es he
  cases he
  exact h

end Digits

/-- Positive digits are written as a proper numeral in every layout. -/
theorem exists_numeral_scientific (layout : Decimal.Layout) (s : Decimal.Scientific)
    (hs : 0 < s.digits) (negative : Bool) :
    ∃ n : Numeral, n.Proper ∧ n.negative = negative ∧ n.unsigned = s.text layout := by
  have hds := digits_toDigits s.digits
  have hhead := Decimal.head?_toDigits_ne_zero s.digits hs
  unfold Decimal.Scientific.text
  dsimp only
  generalize Nat.toDigits 10 s.digits = ds at hds hhead
  have hlen : 0 < ds.length := List.length_pos_iff.2 hds.ne_nil
  split
  · split
    · -- whole digits, zeros and `.0`
      refine ⟨⟨negative, ds ++ List.replicate s.power.toNat '0', some ['0'], none⟩,
        ⟨hds.append_zeros _, fun h0 => ?_, digits_zero.of_some, nofun⟩, rfl, ?_⟩
      · rw [List.head?_append, List.head?_eq_some_head hds.ne_nil, Option.some_or,
          ← List.head?_eq_some_head hds.ne_nil] at h0
        exact absurd h0 hhead
      · simp [Numeral.unsigned, Numeral.fractionChars, Numeral.exponentChars]
    · next hneg =>
      split
      · next hfirst =>
        -- digits on both sides of the point
        have hinside : (s.power + ds.length - 1).toNat + 1 < ds.length := by omega
        refine ⟨⟨negative, ds.take ((s.power + ds.length - 1).toNat + 1),
          some (ds.drop ((s.power + ds.length - 1).toNat + 1)), none⟩,
          ⟨hds.take _, fun h0 => ?_, (hds.drop hinside).of_some, nofun⟩, rfl, ?_⟩
        · rw [List.head?_take, if_neg (Nat.succ_ne_zero _)] at h0
          exact absurd h0 hhead
        · simp [Numeral.unsigned, Numeral.fractionChars, Numeral.exponentChars]
      · -- a zero before the point
        refine ⟨⟨negative, ['0'],
          some (List.replicate (-(s.power + ds.length - 1) - 1).toNat '0' ++ ds), none⟩,
          ⟨digits_zero, fun _ => rfl, (hds.zeros_append _).of_some, nofun⟩, rfl, ?_⟩
        simp [Numeral.unsigned, Numeral.fractionChars, Numeral.exponentChars]
  · -- an exponent behind one digit, or behind one digit and a fraction
    have hexp := digits_toDigits (s.power + ds.length - 1).natAbs
    match ds with
    | [] => exact absurd rfl hds.ne_nil
    | [d] =>
      refine ⟨⟨negative, [d], none, some (decide (s.power + [d].length - 1 < 0),
        Nat.toDigits 10 (s.power + [d].length - 1).natAbs)⟩,
        ⟨hds, fun _ => rfl, nofun, fun e he => ?_⟩, rfl, ?_⟩
      · cases he
        exact hexp
      · simp [Numeral.unsigned, Numeral.fractionChars, Numeral.exponentChars]
    | d :: e :: es =>
      refine ⟨⟨negative, [d], some (e :: es), some (decide (s.power + (d :: e :: es).length - 1 < 0),
        Nat.toDigits 10 (s.power + (d :: e :: es).length - 1).natAbs)⟩,
        ⟨hds.take 0, fun _ => rfl, (hds.drop (n := 1) (by simp)).of_some, fun x hx => ?_⟩, rfl, ?_⟩
      · cases hx
        exact hexp
      · simp [Numeral.unsigned, Numeral.fractionChars, Numeral.exponentChars]

theorem leading_toDigits (n : Nat) (h : (Nat.toDigits 10 n).head? = some '0') :
    (Nat.toDigits 10 n).length = 1 := by
  rcases Nat.eq_zero_or_pos n with rfl | hn
  · rw [Nat.toDigits_zero]
    rfl
  · exact absurd h (Decimal.head?_toDigits_ne_zero n hn)

/-- The numeral of an integer. -/
def Numeral.ofInt (i : Int) : Numeral where
  negative := decide (i < 0)
  whole := Nat.toDigits 10 i.natAbs

theorem Numeral.proper_ofInt (i : Int) : (ofInt i).Proper :=
  ⟨digits_toDigits _, leading_toDigits _, nofun, nofun⟩

theorem text_integer (i : Int) : (Number.integer i).text = (Numeral.ofInt i).chars := by
  show i.repr.toList = _
  cases i with
  | ofNat m =>
    show m.repr.toList = _
    rw [Nat.toList_repr]
    simp [Numeral.chars, Numeral.unsigned, Numeral.ofInt, Numeral.fractionChars,
      Numeral.exponentChars]
  | negSucc m =>
    show ("-" ++ (m + 1).repr).toList = _
    rw [String.toList_append, Nat.toList_repr]
    simp [Numeral.chars, Numeral.unsigned, Numeral.ofInt, Numeral.fractionChars,
      Numeral.exponentChars]

/-- Every number is written as a proper numeral. -/
theorem exists_numeral (x : Number) : ∃ n : Numeral, n.Proper ∧ x.text = n.chars := by
  cases x with
  | integer i => exact ⟨_, Numeral.proper_ofInt i, text_integer i⟩
  | double bits =>
    by_cases hz : (Decimal.Binary.ofBits bits).significand = 0
    · refine ⟨⟨decide (bits.toNat / Nat.pow 2 63 % 2 = 1), ['0'], some ['0'], none⟩, ?_, ?_⟩
      · exact ⟨digits_zero, fun _ => rfl, digits_zero.of_some, nofun⟩
      · unfold Number.text signOf
        dsimp only
        rw [if_pos hz]
        simp [Numeral.chars, Numeral.unsigned, Numeral.fractionChars, Numeral.exponentChars]
    · obtain ⟨n, hproper, hnegative, hunsigned⟩ := exists_numeral_scientific doubleLayout
        (Decimal.Binary.ofBits bits).shortest
        (Decimal.Binary.shortest_pos _ (Nat.pos_of_ne_zero hz) (Decimal.Binary.power_ofBits bits))
        (decide (bits.toNat / Nat.pow 2 63 % 2 = 1))
      refine ⟨n, hproper, ?_⟩
      unfold Number.text signOf
      dsimp only
      rw [if_neg hz, ← hunsigned]
      simp [Numeral.chars, hnegative]

/-! ## Reading numbers -/

theorem skipBlanks_cons {c : Cell} (h : isBlank c = false) (cs : List Cell) :
    skipBlanks (c :: cs) = c :: cs := by
  simp [skipBlanks, h]

theorem readValue_digit (fuel : Nat) {c : Char} (hc : c.isDigit = true) (cs : List Cell) :
    readValue (fuel + 1) (some c :: cs) = readNumber false (some c :: cs) := by
  have hne : ∀ d : Char, d.isDigit = false → c ≠ d := fun d hd => isDigit_ne hc hd
  have hblank : isBlank (some c) = false := by
    simp [isBlank, hne ' ' rfl, hne '\n' rfl, hne '\t' rfl, hne '\r' rfl]
  unfold readValue
  rw [skipBlanks_cons hblank]
  split
  · next h => cases h; cases hc
  · next h => cases h; cases hc
  · next h => cases h; cases hc
  · next h => cases h; cases hc
  · next h => cases h; cases hc
  · next h => cases h; cases hc
  · next h => cases h; cases hc
  · rfl

theorem readValue_numeral (fuel : Nat) (n : Numeral) (hn : n.Proper) (rest : List Cell)
    (hr : Closed rest) :
    readValue (fuel + 1) (n.chars.map some ++ rest) = some (.number n.spelling.number?, rest) := by
  have hread := readNumber_unsigned n hn hr
  obtain ⟨negative, whole, fraction, exponent⟩ := n
  cases negative with
  | true => exact hread
  | false =>
    have hwhole : Digits whole := hn.whole
    cases whole with
    | nil => exact absurd rfl hwhole.ne_nil
    | cons c cs =>
      have hc := hwhole.isDigit c List.mem_cons_self
      exact (readValue_digit fuel hc _).trans hread

/-- What the text of a number is read as. -/
def Number.reading (x : Number) : Raw :=
  match readValue 1 (x.text.map some) with
  | some (r, _) => r
  | none => .null

/-- A number is read in whole, and as the same wherever it stands. -/
theorem readValue_number (fuel : Nat) (x : Number) {rest : List Cell} (hr : Closed rest) :
    readValue (fuel + 1) (x.text.map some ++ rest) = some (x.reading, rest) := by
  obtain ⟨n, hn, htext⟩ := exists_numeral x
  have halone := readValue_numeral 0 n hn [] trivial
  rw [List.append_nil] at halone
  unfold Number.reading
  rw [htext, halone, readValue_numeral fuel n hn _ hr]

theorem Number.reading_of_text {x : Number} {n : Numeral} (hn : n.Proper) (htext : x.text = n.chars) :
    x.reading = .number n.spelling.number? := by
  have hread := readValue_numeral 0 n hn [] trivial
  rw [List.append_nil, ← htext] at hread
  unfold Number.reading
  rw [hread]

theorem Number.reading_ne_null (x : Number) : x.reading ≠ .null := by
  obtain ⟨n, hn, htext⟩ := exists_numeral x
  rw [reading_of_text hn htext]
  nofun

theorem significand_digits (cs : List Char) (n : Nat)
    (h : Nat.ofDigitChars 10 cs n < Nat.pow 2 64) :
    significand n (cs.map digitValue) = (Nat.ofDigitChars 10 cs n, 0) := by
  induction cs generalizing n with
  | nil => rfl
  | cons c cs ih =>
    rw [Nat.ofDigitChars_cons] at h ⊢
    have hle : 10 * n + digitValue c ≤ Nat.ofDigitChars 10 cs (10 * n + digitValue c) := by
      rw [Nat.ofDigitChars_eq_ofDigitChars_zero]
      exact Nat.le_add_right_of_le (Nat.le_mul_of_pos_left _ (Nat.pow_pos (by decide)))
    have hlt : 10 * n + digitValue c < Nat.pow 2 64 := Nat.lt_of_le_of_lt hle h
    rw [List.map_cons]
    unfold significand
    rw [if_pos hlt]
    exact ih _ h

/-! ## Whole numbers -/

/-- The bits of the double that minus zero is read as. -/
def minusZero : UInt64 := 0x8000000000000000

/-- An integer of at most 64 bits, signed or unsigned. Minus zero is one that is kept as a double. -/
def Number.Whole : Number → Prop
  | .integer n => -0x8000000000000000 ≤ n ∧ n < 0x10000000000000000
  | .double bits => bits = minusZero

instance : DecidablePred Number.Whole := fun x => by
  cases x <;> unfold Number.Whole <;> exact inferInstance

/-- A numeral without point and exponent is read as the integer that it spells. -/
theorem number?_ofInt {n : Int} (hlow : -0x8000000000000000 ≤ n) (hhigh : n < 0x10000000000000000) :
    (Numeral.ofInt n).spelling.number? = some (.integer n) := by
  have hvalue : Nat.ofDigitChars 10 (Nat.toDigits 10 n.natAbs) 0 = n.natAbs :=
    Nat.ofDigitChars_ten_toDigits
  have hsig := significand_digits (Nat.toDigits 10 n.natAbs) 0
    (by rw [hvalue]; show n.natAbs < 2 ^ 64; omega)
  rw [hvalue] at hsig
  have hsig : significand 0 (Numeral.ofInt n).spelling.whole = (n.natAbs, 0) := hsig
  have hnegative : (Numeral.ofInt n).spelling.negative = decide (n < 0) := rfl
  unfold Spelling.number?
  rw [hsig, hnegative]
  by_cases hn : n < 0
  · have hsmall : ¬ (n.natAbs = 0 ∨ Nat.pow 2 63 < n.natAbs) := by
      show ¬ (n.natAbs = 0 ∨ 2 ^ 63 < n.natAbs)
      omega
    have habs : -(n.natAbs : Int) = n := by omega
    simp only [decide_eq_true hn, Numeral.spelling, Numeral.ofInt, Option.map_none, Nat.lt_irrefl,
      if_false, Bool.not_true, Bool.false_eq_true, hsmall]
    rw [habs]
  · have habs : (n.natAbs : Int) = n := by omega
    simp only [decide_eq_false hn, Numeral.spelling, Numeral.ofInt, Option.map_none, Nat.lt_irrefl,
      if_false, Bool.not_false, if_true]
    rw [habs]

/-- Whole numbers are read back. -/
theorem Number.Whole.reading_eq {x : Number} (h : x.Whole) : x.reading = .number (some x) := by
  cases x with
  | integer n =>
    rw [reading_of_text (Numeral.proper_ofInt n) (text_integer n), number?_ofInt h.1 h.2]
  | double bits =>
    obtain rfl : bits = minusZero := h
    have hproper : (Numeral.mk true ['0'] (some ['0']) none).Proper :=
      ⟨digits_zero, fun _ => rfl, digits_zero.of_some, nofun⟩
    rw [reading_of_text hproper (by decide +kernel)]
    exact congrArg Raw.number (by decide +kernel)

end OciCompose.Json
