/-
  Hexadecimal text.
  `isLower_digit`: the digits written are lower case, so what `ofWord` writes needs no folding.
-/

namespace OciCompose.Hex

/-- A digit of lower-case hexadecimal text. -/
def isLower (c : Char) : Bool := ('0' ≤ c && c ≤ '9') || ('a' ≤ c && c ≤ 'f')

/-- A digit of hexadecimal text in either case. -/
def isDigit (c : Char) : Bool := isLower c || ('A' ≤ c && c ≤ 'F')

/-- The digit whose value is `n` modulo sixteen. -/
def digit (n : Nat) : Char :=
  let d := n % 16
  Char.ofNat (if d < 10 then 48 + d else 87 + d)

/-- The value of a digit in either case. -/
def value? (c : Char) : Option Nat :=
  if '0' ≤ c ∧ c ≤ '9' then some (c.toNat - 48)
  else if 'a' ≤ c ∧ c ≤ 'f' then some (c.toNat - 87)
  else if 'A' ≤ c ∧ c ≤ 'F' then some (c.toNat - 55)
  else none

/-- The eight digits of a word, highest first. -/
def ofWord (w : UInt32) : List Char :=
  [28, 24, 20, 16, 12, 8, 4, 0].map fun k => digit (w.toNat / Nat.pow 2 k)

theorem isLower_digit (n : Nat) : isLower (digit n) = true := by
  have h : ∀ d : Fin 16, isLower (Char.ofNat (if d.val < 10 then 48 + d.val else 87 + d.val)) =
      true := by decide
  exact h ⟨n % 16, by omega⟩

theorem isLower_of_mem_ofWord {w : UInt32} {c : Char} (h : c ∈ ofWord w) : isLower c = true := by
  obtain ⟨k, _, rfl⟩ := List.mem_map.1 h
  exact isLower_digit _

theorem length_ofWord (w : UInt32) : (ofWord w).length = 8 := rfl

/-- Folding letters to lower case keeps lower-case digits. -/
theorem toLower_of_isLower {c : Char} (h : isLower c = true) : c.toLower = c := by
  simp only [isLower, Bool.or_eq_true, Bool.and_eq_true, decide_eq_true_eq] at h
  change dite _ _ _ = c
  rw [dif_neg]
  simp only [Char.le_def, UInt32.le_iff_toNat_le] at h
  simp only [UInt32.le_iff_toNat_le, ge_iff_le] at *
  simp at h ⊢
  omega

theorem isLower_toLower {c : Char} (h : isDigit c = true) : isLower c.toLower = true := by
  simp only [isDigit, Bool.or_eq_true] at h
  rcases h with h | h
  · rw [toLower_of_isLower h, h]
  · have hc : c = Char.ofNat c.toNat := (Char.ofNat_toNat c).symm
    simp only [Bool.and_eq_true, decide_eq_true_eq, Char.le_def, UInt32.le_iff_toNat_le] at h
    have h65 : 65 ≤ c.toNat ∧ c.toNat ≤ 70 := h
    have hx : ∀ d : Fin 6, isLower (Char.ofNat (65 + d.val)).toLower = true := by decide
    have := hx ⟨c.toNat - 65, by omega⟩
    rw [hc]
    simpa [show 65 + (c.toNat - 65) = c.toNat by omega] using this

end OciCompose.Hex
