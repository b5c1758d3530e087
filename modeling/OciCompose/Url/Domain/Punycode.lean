import OciCompose.Text

/-
  Punycode: any text in ASCII.
  The ASCII characters come first, up to the last `-`. The others follow in ascending order, each as
  the number of steps from the one before it, where a step goes to the next place in the text and from
  the last place to the first one for the next code point.
-/

namespace OciCompose.Punycode

/-- Numbers have this many digits, the letters and then the decimal digits. -/
def base : Nat := 36

def digit (n : Nat) : Char := Char.ofNat (if n < 26 then 0x61 + n else 0x30 + n - 26)

/-- The value of a digit, a letter of which may be a capital. -/
def value? (c : Char) : Option Nat :=
  if 'a' ≤ c ∧ c ≤ 'z' then some (c.toNat - 0x61)
  else if 'A' ≤ c ∧ c ≤ 'Z' then some (c.toNat - 0x41)
  else if '0' ≤ c ∧ c ≤ '9' then some (c.toNat - 0x30 + 26)
  else none

/-- A number ends at its first digit below the threshold of the digit's place. -/
def threshold (place bias : Nat) : Nat :=
  if place ≤ bias then 1 else if bias + 26 ≤ place then 26 else place - bias

theorem threshold_pos (place bias : Nat) : 1 ≤ threshold place bias := by
  unfold threshold
  split
  · omega
  · split <;> omega

/-- How often a number above 455 can be divided by 35, with what is left. -/
def scaleDown (n places : Nat) : Nat × Nat :=
  if 455 < n then scaleDown (n / 35) (places + base) else (n, places)
termination_by n
decreasing_by exact Nat.div_lt_self (by omega) (by omega)

/-- The bias for the number behind one of `steps`, in a text that then has `length` characters. -/
def adapt (steps length : Nat) (first : Bool) : Nat :=
  let n := if first then steps / 700 else steps / 2
  let (left, places) := scaleDown (n + n / length) 0
  places + base * left / (left + 38)

/-- The bias for the first number. -/
def firstBias : Nat := 72

/-- The code point from which steps count. -/
def firstCode : Nat := 0x80

/-! ## Writing -/

/-- The digits of a number, from a place on. -/
def digits (bias place n : Nat) : List Char :=
  let t := threshold place bias
  if n < t then [digit n]
  else digit (t + (n - t) % (base - t)) :: digits bias (place + base) ((n - t) / (base - t))
termination_by n
decreasing_by
  have h1 := threshold_pos place bias
  have h2 : (n - threshold place bias) / (base - threshold place bias) ≤ n - threshold place bias :=
    Nat.div_le_self _ _
  omega

/-- What is written so far: the digits, the steps since the last number, the bias, and how many
    characters are written. -/
structure Writer where
  digits : List Char
  steps : Nat
  bias : Nat
  written : Nat

/-- Goes past a character while the code point `n` is written, or writes it. -/
def Writer.pass (n plain : Nat) (w : Writer) (c : Char) : Writer :=
  if c.toNat < n then { w with steps := w.steps + 1 }
  else if c.toNat = n then
    { digits := w.digits ++ Punycode.digits w.bias base w.steps
      steps := 0
      bias := adapt w.steps (w.written + 1) (w.written == plain)
      written := w.written + 1 }
  else w

/-- Writes code points in ascending order, when those below `n` are written. -/
def Writer.writeAll (s : List Char) (plain : Nat) : List Nat → Nat → Writer → Writer
  | [], _, w => w
  | m :: ms, n, w =>
    let w := s.foldl (Writer.pass m plain) { w with steps := w.steps + (m - n) * (w.written + 1) }
    writeAll s plain ms (m + 1) { w with steps := w.steps + 1 }

def isAscii (c : Char) : Bool := c.toNat < firstCode

def encode (s : List Char) : List Char :=
  let plain := s.filter isAscii
  let codes := ((s.filter (!isAscii ·)).map Char.toNat).eraseDups.mergeSort
  plain ++ (if plain = [] then [] else ['-']) ++
    (Writer.writeAll s plain.length codes firstCode ⟨[], 0, firstBias, plain.length⟩).digits

/-! ## Reading -/

/-- All numbers stay below this. -/
def limit : Nat := 4294967296

/-- Adds a number to `sum`, reading from a digit on that counts `weight` times; and the text behind
    the number. -/
def readNumber? (bias : Nat) : Nat → Nat → Nat → List Char → Option (Nat × List Char)
  | _, _, _, [] => none
  | place, weight, sum, c :: cs =>
    match value? c with
    | none => none
    | some d =>
      let sum := sum + d * weight
      let weight' := weight * (base - threshold place bias)
      if limit ≤ sum then none
      else if d < threshold place bias then some (sum, cs)
      else if limit ≤ weight' then none
      else readNumber? bias (place + base) weight' sum cs

/-- A number takes at least one digit. -/
theorem length_lt_of_readNumber? {bias : Nat} {s : List Char} {r : Nat × List Char}
    {place weight sum : Nat} (h : readNumber? bias place weight sum s = some r) :
    r.2.length < s.length := by
  induction s generalizing place weight sum with
  | nil => simp [readNumber?] at h
  | cons c cs ih =>
    simp only [readNumber?] at h
    split at h
    · simp at h
    · split at h
      · simp at h
      · split at h
        · obtain rfl := Option.some.inj h
          simp
        · split at h
          · simp at h
          · exact Nat.lt_succ_of_lt (ih h)

/-- Puts the characters that the digits stand for into a text, where `code` and `place` are those of
    the next step. -/
def insertAll? (bias code place : Nat) (done : List Char) : List Char → Option (List Char)
  | [] => some done
  | c :: cs =>
    match _h : readNumber? bias base 1 place (c :: cs) with
    | none => none
    | some (sum, rest) =>
      let length := done.length + 1
      let code' := code + sum / length
      if code'.isValidChar then
        insertAll? (adapt (sum - place) length (place == 0)) code' (sum % length + 1)
          (done.insertIdx (sum % length) (Char.ofNat code')) rest
      else none
termination_by s => s.length
decreasing_by exact length_lt_of_readNumber? _h

def decode? (s : List Char) : Option (List Char) :=
  match Text.cutLast '-' s with
  | some (plain, digits) =>
    if plain = [] || !plain.all isAscii then none
    else insertAll? firstBias firstCode 0 plain digits
  | none => insertAll? firstBias firstCode 0 [] s

end OciCompose.Punycode
