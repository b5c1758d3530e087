/-
  Bytes and their reading as UTF-8.
  `parts` splits any bytes into characters and longest ill-formed stretches. `parts_encode`: what
  `encode` writes is read back as its characters, so `decode?` inverts `encode`.
-/

namespace OciCompose

abbrev Bytes := List UInt8

namespace Utf8

/-- The UTF-8 bytes of a text. -/
def encode (s : String) : Bytes := s.toList.flatMap String.utf8EncodeChar

/-- A character whose first bytes are read: the bits so far, the range its next byte has to be in,
    and how many bytes come after that one. -/
structure Begun where
  bits : Nat
  low : Nat
  high : Nat
  after : Nat

inductive Lead where
  | char (c : Char)
  | begun (p : Begun)
  | bad

/-- What a first byte says. Overlong forms, surrogates and values past the last character are
    excluded by the range of the second byte. -/
def lead (b : UInt8) : Lead :=
  let n := b.toNat
  if n < 0x80 then .char (Char.ofNat n)
  else if n < 0xC2 then .bad
  else if n < 0xE0 then .begun ⟨n % 32, 0x80, 0xBF, 0⟩
  else if n = 0xE0 then .begun ⟨0, 0xA0, 0xBF, 1⟩
  else if n = 0xED then .begun ⟨13, 0x80, 0x9F, 1⟩
  else if n < 0xF0 then .begun ⟨n % 16, 0x80, 0xBF, 1⟩
  else if n = 0xF0 then .begun ⟨0, 0x90, 0xBF, 2⟩
  else if n < 0xF4 then .begun ⟨n % 8, 0x80, 0xBF, 2⟩
  else if n = 0xF4 then .begun ⟨4, 0x80, 0x8F, 2⟩
  else .bad

/-- The characters of the bytes in order, with `none` for each longest stretch that no character
    begins with. -/
def parts : Option Begun → Bytes → List (Option Char)
  | none, [] => []
  | some _, [] => [none]
  | none, b :: bs =>
    match lead b with
    | .char c => some c :: parts none bs
    | .begun p => parts (some p) bs
    | .bad => none :: parts none bs
  | some p, b :: bs =>
    let n := b.toNat
    if p.low ≤ n ∧ n ≤ p.high then
      let bits := p.bits * 64 + n % 64
      match p.after with
      | 0 => some (Char.ofNat bits) :: parts none bs
      | k + 1 => parts (some ⟨bits, 0x80, 0xBF, k⟩) bs
    else
      none :: match lead b with
        | .char c => some c :: parts none bs
        | .begun q => parts (some q) bs
        | .bad => none :: parts none bs

/-- The text of well-formed bytes. -/
def decode? (bs : Bytes) : Option String :=
  ((parts none bs).mapM id).map String.ofList

/-- The text of any bytes, with U+FFFD for each ill-formed stretch. -/
def decodeLossy (bs : Bytes) : String :=
  String.ofList ((parts none bs).map fun c => c.getD '\uFFFD')

theorem lead_ascii {n : Nat} (h : n < 0x80) : lead (UInt8.ofNat n) = .char (Char.ofNat n) := by
  have : (UInt8.ofNat n).toNat = n := by simp; omega
  simp [lead, this, h]

private theorem toNat_ofNat_of_lt {n : Nat} (h : n < 256) : (UInt8.ofNat n).toNat = n := by
  simp; omega

theorem lead_two {b : UInt8} {n : Nat} (hb : b.toNat = n + 0xC0) (hlow : 2 ≤ n) (hhigh : n < 32) :
    lead b = .begun ⟨n, 0x80, 0xBF, 0⟩ := by
  simp only [lead, hb]
  rw [if_neg (by omega), if_neg (by omega), if_pos (by omega)]
  simp only [Lead.begun.injEq, Begun.mk.injEq, and_true]
  omega

/-- The first of three bytes takes a second one, but for overlong forms and surrogates. -/
theorem lead_three {b : UInt8} {n : Nat} (second : Nat) (hb : b.toNat = n + 0xE0) (hn : n < 16)
    (hrange : 0x80 ≤ second ∧ second ≤ 0xBF) (hoverlong : n = 0 → 0xA0 ≤ second)
    (hsurrogate : n = 13 → second ≤ 0x9F) :
    ∃ low high, lead b = .begun ⟨n, low, high, 1⟩ ∧ low ≤ second ∧ second ≤ high := by
  simp only [lead, hb]
  rw [if_neg (by omega), if_neg (by omega), if_neg (by omega)]
  split
  · exact ⟨0xA0, 0xBF, by simp; omega, by omega, by omega⟩
  split
  · exact ⟨0x80, 0x9F, by simp; omega, by omega, by omega⟩
  rw [if_pos (by omega)]
  exact ⟨0x80, 0xBF, by simp; omega, by omega, by omega⟩

/-- The first of four bytes takes a second one, but for overlong forms and values past the last
    character. -/
theorem lead_four {b : UInt8} {n : Nat} (second : Nat) (hb : b.toNat = n + 0xF0) (hn : n ≤ 4)
    (hrange : 0x80 ≤ second ∧ second ≤ 0xBF) (hoverlong : n = 0 → 0x90 ≤ second)
    (hlast : n = 4 → second ≤ 0x8F) :
    ∃ low high, lead b = .begun ⟨n, low, high, 2⟩ ∧ low ≤ second ∧ second ≤ high := by
  simp only [lead, hb]
  rw [if_neg (by omega), if_neg (by omega), if_neg (by omega), if_neg (by omega),
    if_neg (by omega), if_neg (by omega)]
  split
  · exact ⟨0x90, 0xBF, by simp; omega, by omega, by omega⟩
  split
  · exact ⟨0x80, 0xBF, by simp; omega, by omega, by omega⟩
  rw [if_pos (by omega)]
  exact ⟨0x80, 0x8F, by simp; omega, by omega, by omega⟩

theorem parts_encodeChar (c : Char) (bs : Bytes) :
    parts none (String.utf8EncodeChar c ++ bs) = some c :: parts none bs := by
  have hv : c.val.toNat < 0xD800 ∨ 0xDFFF < c.val.toNat ∧ c.val.toNat < 0x110000 := c.valid
  have hc : Char.ofNat c.val.toNat = c := Char.ofNat_toNat c
  unfold String.utf8EncodeChar
  generalize c.val.toNat = v at hv hc ⊢
  simp only
  split
  · next h =>
    simp [parts, lead_ascii (show v < 0x80 by omega), hc]
  split
  · next h1 h2 =>
    have e1 : (UInt8.ofNat (v / 64 % 32 + 192)).toNat = v / 64 + 192 := by
      rw [toNat_ofNat_of_lt (by omega)]; omega
    have e2 : (UInt8.ofNat (v % 64 + 128)).toNat = v % 64 + 128 := toNat_ofNat_of_lt (by omega)
    have l := lead_two e1 (by omega) (by omega)
    have hr : 128 ≤ v % 64 + 128 ∧ v % 64 + 128 ≤ 191 := by omega
    have hb : v / 64 * 64 + (v % 64 + 128) % 64 = v := by omega
    generalize UInt8.ofNat (v / 64 % 32 + 192) = b1 at l
    generalize UInt8.ofNat (v % 64 + 128) = b2 at e2
    simp only [List.cons_append, List.nil_append, parts, l, e2, hb, hr, and_self, if_true, hc]
  split
  · next h1 h2 h3 =>
    have e1 : (UInt8.ofNat (v / 4096 % 16 + 224)).toNat = v / 4096 + 224 := by
      rw [toNat_ofNat_of_lt (by omega)]; omega
    have e2 : (UInt8.ofNat (v / 64 % 64 + 128)).toNat = v / 64 % 64 + 128 :=
      toNat_ofNat_of_lt (by omega)
    have e3 : (UInt8.ofNat (v % 64 + 128)).toNat = v % 64 + 128 := toNat_ofNat_of_lt (by omega)
    obtain ⟨lo, hi, l, hlo, hhi⟩ := lead_three (v / 64 % 64 + 128) e1 (by omega) (by omega)
      (by omega) (by omega)
    have hr : 128 ≤ v % 64 + 128 ∧ v % 64 + 128 ≤ 191 := by omega
    have hb : (v / 4096 * 64 + (v / 64 % 64 + 128) % 64) * 64 + (v % 64 + 128) % 64 = v := by omega
    generalize UInt8.ofNat (v / 4096 % 16 + 224) = b1 at l
    generalize UInt8.ofNat (v / 64 % 64 + 128) = b2 at e2
    generalize UInt8.ofNat (v % 64 + 128) = b3 at e3
    simp only [List.cons_append, List.nil_append, parts, l, e2, e3, hlo, hhi, hb, hr, and_self,
      if_true, hc]
  · next h1 h2 h3 =>
    have e1 : (UInt8.ofNat (v / 262144 % 8 + 240)).toNat = v / 262144 + 240 := by
      rw [toNat_ofNat_of_lt (by omega)]; omega
    have e2 : (UInt8.ofNat (v / 4096 % 64 + 128)).toNat = v / 4096 % 64 + 128 :=
      toNat_ofNat_of_lt (by omega)
    have e3 : (UInt8.ofNat (v / 64 % 64 + 128)).toNat = v / 64 % 64 + 128 :=
      toNat_ofNat_of_lt (by omega)
    have e4 : (UInt8.ofNat (v % 64 + 128)).toNat = v % 64 + 128 := toNat_ofNat_of_lt (by omega)
    obtain ⟨lo, hi, l, hlo, hhi⟩ := lead_four (v / 4096 % 64 + 128) e1 (by omega) (by omega)
      (by omega) (by omega)
    have hr3 : 128 ≤ v / 64 % 64 + 128 ∧ v / 64 % 64 + 128 ≤ 191 := by omega
    have hr4 : 128 ≤ v % 64 + 128 ∧ v % 64 + 128 ≤ 191 := by omega
    have hb : ((v / 262144 * 64 + (v / 4096 % 64 + 128) % 64) * 64 + (v / 64 % 64 + 128) % 64) * 64 +
        (v % 64 + 128) % 64 = v := by omega
    generalize UInt8.ofNat (v / 262144 % 8 + 240) = b1 at l
    generalize UInt8.ofNat (v / 4096 % 64 + 128) = b2 at e2
    generalize UInt8.ofNat (v / 64 % 64 + 128) = b3 at e3
    generalize UInt8.ofNat (v % 64 + 128) = b4 at e4
    simp only [List.cons_append, List.nil_append, parts, l, e2, e3, e4, hlo, hhi, hb, hr3, hr4,
      and_self, if_true, hc]

theorem parts_encode (s : String) (bs : Bytes) :
    parts none (encode s ++ bs) = s.toList.map some ++ parts none bs := by
  unfold encode
  induction s.toList with
  | nil => rfl
  | cons c cs ih => simp [parts_encodeChar, ih]

@[simp] theorem decode?_encode (s : String) : decode? (encode s) = some s := by
  have h := parts_encode s []
  have hm : ∀ l : List Char, (l.map some).mapM id = some l := by
    intro l
    induction l with
    | nil => rfl
    | cons c cs ih => simp [List.mapM_cons, ih]
  simp only [List.append_nil] at h
  simp [decode?, h, parts, hm]

@[simp] theorem decodeLossy_encode (s : String) : decodeLossy (encode s) = s := by
  have h := parts_encode s []
  simp only [List.append_nil] at h
  simp [decodeLossy, h, parts, Function.comp_def]

end Utf8

end OciCompose
