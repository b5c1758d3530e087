/-
  Text over lists of characters: white space, trimming and cutting at a separator.
  `cut_eq_some_iff` and `cutLast_eq_some_iff` say what a cut is; `cut_eq_none_iff` when there is none.
-/

namespace OciCompose.Text

/-- The characters with the Unicode property White_Space. -/
def isSpace (c : Char) : Bool :=
  let n := c.toNat
  (9 ≤ n && n ≤ 13) || n == 0x20 || n == 0x85 || n == 0xA0 || n == 0x1680 ||
    (0x2000 ≤ n && n ≤ 0x200A) || n == 0x2028 || n == 0x2029 || n == 0x202F || n == 0x205F ||
    n == 0x3000

def trimStart (cs : List Char) : List Char := cs.dropWhile isSpace

def trimEnd (cs : List Char) : List Char := (cs.reverse.dropWhile isSpace).reverse

/-- Drops white space at both ends. -/
def trimChars (cs : List Char) : List Char := trimEnd (trimStart cs)

def trim (s : String) : String := String.ofList (trimChars s.toList)

/-- The text before and after the first `c`. -/
def cut (c : Char) : List Char → Option (List Char × List Char)
  | [] => none
  | x :: xs => if x = c then some ([], xs) else (cut c xs).map fun (a, b) => (x :: a, b)

/-- The text before and after the last `c`. -/
def cutLast (c : Char) : List Char → Option (List Char × List Char)
  | [] => none
  | x :: xs =>
    match cutLast c xs with
    | some (a, b) => some (x :: a, b)
    | none => if x = c then some ([], xs) else none

theorem cut_eq_none_iff {c : Char} {s : List Char} : cut c s = none ↔ c ∉ s := by
  induction s with
  | nil => simp [cut]
  | cons x xs ih =>
    by_cases h : x = c
    · simp [cut, h]
    · simp [cut, h, ih, Ne.symm h]

theorem cut_eq_some_iff {c : Char} {s a b : List Char} :
    cut c s = some (a, b) ↔ s = a ++ c :: b ∧ c ∉ a := by
  induction s generalizing a with
  | nil => simp [cut]
  | cons x xs ih =>
    by_cases h : x = c
    · subst h
      cases a with
      | nil => simp [cut, eq_comm]
      | cons y ys => simp [cut]; intro h1 _ h2; simp_all
    · cases a with
      | nil => simp [cut, h]
      | cons y ys =>
        simp only [cut, h, if_false, Option.map_eq_some_iff, Prod.mk.injEq, List.cons.injEq,
          List.cons_append, Prod.exists, List.mem_cons, not_or]
        constructor
        · rintro ⟨a', b', hc, ⟨rfl, rfl⟩, rfl⟩
          obtain ⟨h1, h2⟩ := ih.1 hc
          exact ⟨⟨rfl, h1⟩, Ne.symm h, h2⟩
        · rintro ⟨⟨rfl, h1⟩, _, h2⟩
          exact ⟨ys, b, ih.2 ⟨h1, h2⟩, ⟨rfl, rfl⟩, rfl⟩

theorem cutLast_eq_none_iff {c : Char} {s : List Char} : cutLast c s = none ↔ c ∉ s := by
  induction s with
  | nil => simp [cutLast]
  | cons x xs ih =>
    simp only [cutLast]
    cases h : cutLast c xs with
    | some p =>
      have : c ∈ xs := by
        have := mt ih.2 (by simp [h])
        simpa using this
      simp [this]
    | none =>
      have := ih.1 h
      by_cases hx : x = c
      · simp [hx]
      · simp [hx, this, Ne.symm hx]

theorem cutLast_eq_some_iff {c : Char} {s a b : List Char} :
    cutLast c s = some (a, b) ↔ s = a ++ c :: b ∧ c ∉ b := by
  induction s generalizing a b with
  | nil => simp [cutLast]
  | cons x xs ih =>
    simp only [cutLast]
    cases h : cutLast c xs with
    | some p =>
      obtain ⟨p1, p2⟩ := p
      obtain ⟨h1, h2⟩ := ih.1 h
      cases a with
      | nil =>
        simp only [Option.some.injEq, Prod.mk.injEq, reduceCtorEq, false_and, List.nil_append,
          List.cons.injEq, false_iff, not_and]
        rintro ⟨_, rfl⟩
        simp [h1]
      | cons y ys =>
        have ih' := @ih ys b
        rw [h] at ih'
        simp only [Option.some.injEq, Prod.mk.injEq, List.cons.injEq, List.cons_append] at ih' ⊢
        rw [and_assoc, ih']
        simp [and_assoc]
    | none =>
      have hn := cutLast_eq_none_iff.1 h
      by_cases hx : x = c
      · subst hx
        cases a with
        | nil => simp; rintro rfl; exact hn
        | cons y ys =>
          simp only [if_true, Option.some.injEq, Prod.mk.injEq, reduceCtorEq, false_and,
            List.cons_append, List.cons.injEq, false_iff, not_and]
          rintro ⟨_, rfl⟩
          simp at hn
      · cases a with
        | nil => simp [hx]
        | cons y ys =>
          simp only [hx, if_false, reduceCtorEq, List.cons_append, List.cons.injEq, false_iff,
            not_and]
          rintro ⟨_, rfl⟩
          simp at hn

/-- The characters of a decimal digit, as their values. -/
def digitValue? (c : Char) : Option Nat :=
  if '0' ≤ c ∧ c ≤ '9' then some (c.toNat - '0'.toNat) else none

/-- A number of one or more decimal digits, after at most one leading `+`. -/
def unsigned? (s : String) : Option Nat :=
  let digits := match s.toList with
    | '+' :: ds => ds
    | ds => ds
  if digits.isEmpty then none
  else digits.foldlM (fun n c => (digitValue? c).map (10 * n + ·)) 0

/-- A number of one or more decimal digits below 2^64. -/
def word64? (s : String) : Option UInt64 :=
  match unsigned? s with
  | some n => if n < Nat.pow 2 64 then some n.toUInt64 else none
  | none => none

end OciCompose.Text
