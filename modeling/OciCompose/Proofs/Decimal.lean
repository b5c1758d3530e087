import Mathlib.Algebra.Group.Nat.Defs
import OciCompose.Decimal

/-
  The digits of a positive number are positive.
  The search for the shortest digits passes over zero (`onGrid?_pos`), what it falls back to has
  seventeen places (`shortest_pos`), and only zeros at the end are stripped (`strip_pos`). So the text
  of a number never begins with a zero that is not its only whole digit.
-/

namespace OciCompose.Decimal

/-! ## Digits of natural numbers -/

theorem head?_toDigits_ne_zero (n : Nat) (h : 0 < n) : (Nat.toDigits 10 n).head? ≠ some '0' := by
  induction n using Nat.strongRecOn with
  | ind n ih =>
    rw [Nat.toDigits_eq_if (by decide)]
    split
    · next hn =>
      have hd : n.digitChar ≠ '0' := fun hd => by
        have := Nat.digitChar_eq_zero.1 hd
        omega
      simpa using hd
    · next hn =>
      have hne : Nat.toDigits 10 (n / 10) ≠ [] := Nat.toDigits_ne_nil
      rw [List.head?_append, List.head?_eq_some_head hne, Option.some_or,
        ← List.head?_eq_some_head hne]
      exact ih (n / 10) (by omega) (by omega)

theorem pow_digitCount_le (n : Nat) (h : 0 < n) : 10 ^ (digitCount n - 1) ≤ n := by
  have hp : 0 < digitCount n := Nat.length_toDigits_pos
  rcases Nat.eq_or_lt_of_le hp with h1 | h1
  · rw [← h1]
    exact h
  · have hk : 0 < digitCount n - 1 := by omega
    have hlen : ¬ (Nat.toDigits 10 n).length ≤ digitCount n - 1 := by
      unfold digitCount at hp ⊢
      omega
    rw [Nat.length_toDigits_le_iff (by decide) hk] at hlen
    exact Nat.le_of_not_lt hlen

/-! ## The first digit -/

theorem le_mul_pow_raise (u fuel v : Nat) (h : u ≤ v * 10 ^ fuel) : u ≤ v * 10 ^ raise u fuel v := by
  induction fuel generalizing v with
  | zero => exact h
  | succ fuel ih =>
    unfold raise
    split
    · next hv => simpa using hv
    · have hmul : ∀ k, v * 10 ^ (k + 1) = 10 * v * 10 ^ k := fun k => by
        rw [Nat.pow_succ, Nat.mul_comm (10 ^ k), ← Nat.mul_assoc, Nat.mul_comm v]
      rw [hmul] at h ⊢
      exact ih (10 * v) h

/-- Seventeen places behind the first digit there is something left of `v / u`. -/
theorem unit_le_of_firstPower (v u : Nat) (hu : 0 < u) (h : u ≤ v * 10 ^ 400) :
    u * 10 ^ (firstPower v u - 17).toNat ≤ v * 10 ^ (17 - firstPower v u).toNat := by
  unfold firstPower
  split
  · next hv =>
    have hq : 10 ^ (digitCount (v / u) - 1) ≤ v / u :=
      pow_digitCount_le _ (Nat.div_pos hv hu)
    have hexp : ((digitCount (v / u) : Int) - 1 - 17).toNat ≤ digitCount (v / u) - 1 := by omega
    calc u * 10 ^ ((digitCount (v / u) : Int) - 1 - 17).toNat
        ≤ u * 10 ^ (digitCount (v / u) - 1) :=
          Nat.mul_le_mul_left u (Nat.pow_le_pow_right (by decide) hexp)
      _ ≤ u * (v / u) := Nat.mul_le_mul_left u hq
      _ ≤ v := Nat.mul_div_le v u
      _ ≤ v * 10 ^ (17 - ((digitCount (v / u) : Int) - 1)).toNat :=
          Nat.le_mul_of_pos_right v (Nat.pow_pos (by decide))
  · have hlow : (-(raise u 400 v : Int) - 17).toNat = 0 := by omega
    have hhigh : raise u 400 v ≤ (17 - -(raise u 400 v : Int)).toNat := by omega
    rw [hlow, Nat.pow_zero, Nat.mul_one]
    exact Nat.le_trans (le_mul_pow_raise u 400 v h)
      (Nat.mul_le_mul_left v (Nat.pow_le_pow_right (by decide) hhigh))

/-! ## The shortest digits -/

theorem Interval.onGrid?_pos {i : Interval} {power : Int} {s : Scientific}
    (h : i.onGrid? power = some s) : 0 < s.digits := by
  unfold onGrid? at h
  extract_lets up step value readsBack d below above twice at h
  split at h
  · next hc =>
    cases h
    simp only [below, Bool.and_eq_true, bne_iff_ne] at hc
    exact Nat.pos_of_ne_zero hc.1.2
  · split at h
    · cases h
      exact Nat.succ_pos _
    · cases h

theorem Interval.shortest_pos (i : Interval) (hu : 0 < i.unit) (h : i.unit ≤ i.value * 10 ^ 400) :
    0 < (i.shortest (firstPower i.value i.unit)).digits := by
  unfold shortest
  split
  · next s hs =>
    obtain ⟨n, -, hn⟩ := List.exists_of_findSome?_eq_some hs
    exact onGrid?_pos hn
  · exact Nat.div_pos (unit_le_of_firstPower i.value i.unit hu h)
      (Nat.mul_pos hu (Nat.pow_pos (by decide)))

theorem Scientific.strip_pos (s : Scientific) (h : 0 < s.digits) : 0 < s.strip.digits := by
  unfold strip
  dsimp only
  refine Nat.div_pos (Nat.le_of_not_lt fun hlt => ?_) (Nat.pow_pos (by decide))
  -- otherwise every digit would be stripped, and all of them be zero
  have hz : 0 < ((Nat.toDigits 10 s.digits).reverse.takeWhile (· == '0')).length := by
    refine Nat.pos_of_ne_zero fun h0 => ?_
    rw [h0] at hlt
    have : s.digits < 1 := hlt
    omega
  have hlen := (Nat.length_toDigits_le_iff (n := s.digits) (b := 10) (by decide) hz).2 hlt
  have hall : (Nat.toDigits 10 s.digits).reverse.takeWhile (· == '0') =
      (Nat.toDigits 10 s.digits).reverse :=
    (List.takeWhile_prefix _).eq_of_length_le (by rw [List.length_reverse]; exact hlen)
  have hrep : Nat.toDigits 10 s.digits =
      List.replicate (Nat.toDigits 10 s.digits).length '0' := by
    refine List.eq_replicate_iff.2 ⟨rfl, fun c hc => ?_⟩
    rw [← List.mem_reverse, ← hall] at hc
    simpa using List.all_eq_true.1 List.all_takeWhile c hc
  have hzero : s.digits = 0 := by
    rw [← Nat.ofDigitChars_ten_toDigits (n := s.digits), hrep, Nat.ofDigitChars_replicate_zero,
      Nat.mul_zero]
  omega

theorem Binary.shortest_pos (b : Binary) (hs : 0 < b.significand) (hp : -1074 ≤ b.power) :
    0 < b.shortest.digits := by
  unfold shortest
  refine Scientific.strip_pos _ (Interval.shortest_pos _ (Nat.pow_pos (by decide)) ?_)
  have hexp : (-(b.power - 2)).toNat ≤ 1076 := by omega
  have hunit : b.interval.unit ≤ 10 ^ 400 := by
    calc b.interval.unit ≤ 2 ^ (3 * 400) := Nat.pow_le_pow_right (by decide) (by omega)
      _ = (2 ^ 3) ^ 400 := Nat.pow_mul 2 3 400
      _ ≤ 10 ^ 400 := Nat.pow_le_pow_left (show 2 ^ 3 ≤ 10 by decide) 400
  have hvalue : 0 < b.interval.value :=
    Nat.mul_pos (Nat.mul_pos (by decide) hs) (Nat.pow_pos (by decide))
  exact Nat.le_trans hunit (Nat.le_mul_of_pos_left _ hvalue)

theorem Binary.power_ofBits (bits : UInt64) : -1074 ≤ (ofBits bits).power := by
  unfold ofBits
  dsimp only
  split
  · exact Int.le_refl _
  · next h =>
    have hexp : 0 < bits.toNat / Nat.pow 2 52 % 2048 := Nat.pos_of_ne_zero h
    dsimp only [Int.ofNat_eq_natCast]
    omega

end OciCompose.Decimal
