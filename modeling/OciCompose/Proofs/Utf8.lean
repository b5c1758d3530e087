import OciCompose.Utf8

/-
  The order of UTF-8.
  `encode_lt`: texts that are in the order of their code points have their bytes in that of bytes.
-/

namespace OciCompose.Utf8

/-- The digits of a number in base 64. -/
theorem base64_digits (v : Nat) :
    ∃ a b c d, b < 64 ∧ c < 64 ∧ d < 64 ∧ v = a * 262144 + b * 4096 + c * 64 + d ∧
      v / 262144 = a ∧ v / 4096 % 64 = b ∧ v / 64 % 64 = c ∧ v % 64 = d :=
  ⟨v / 262144, v / 4096 % 64, v / 64 % 64, v % 64, by omega, by omega, by omega, by omega, rfl, rfl,
    rfl, rfl⟩

/-- A character with a greater code point has greater bytes, whatever comes after them. -/
theorem encodeChar_lt {c d : Char} (h : c < d) (x y : Bytes) :
    String.utf8EncodeChar c ++ x < String.utf8EncodeChar d ++ y := by
  have hlt : c.val.toNat < d.val.toNat := UInt32.lt_iff_toNat_lt.1 h
  have hd : d.val.toNat < 0x110000 := by
    rcases d.valid with h | ⟨-, h⟩
    · exact Nat.lt_trans h (by decide)
    · exact h
  unfold String.utf8EncodeChar
  generalize c.val.toNat = v at hlt ⊢
  generalize d.val.toNat = w at hlt hd ⊢
  dsimp only
  -- the first byte says how many there are; of as many, the first other digit decides
  repeat' split
  all_goals
    simp only [List.cons_append, List.nil_append, List.cons_lt_cons_iff, UInt8.lt_iff_toNat_lt,
      ← UInt8.toNat_inj, UInt8.toNat_ofNat']
    try omega
  obtain ⟨a, b, c, d, hb, hc, hd, hv, h1, h2, h3, h4⟩ := base64_digits v
  obtain ⟨a', b', c', d', hb', hc', hd', hv', h1', h2', h3', h4'⟩ := base64_digits w
  rw [h1, h2, h3, h4, h1', h2', h3', h4']
  clear h1 h2 h3 h4 h1' h2' h3' h4'
  omega

/-- The order of code points is that of the bytes. -/
theorem encode_lt {s t : String} (h : s < t) : encode s < encode t := by
  unfold encode
  rw [String.lt_iff] at h
  generalize s.toList = a at h
  generalize t.toList = b at h
  induction h with
  | nil =>
    rw [List.flatMap_nil, List.flatMap_cons]
    cases hbytes : String.utf8EncodeChar _ with
    | nil => exact absurd (congrArg List.length hbytes) (by
        rw [String.length_utf8EncodeChar]
        exact Nat.ne_of_gt (Char.utf8Size_pos _))
    | cons b bs => exact List.nil_lt_cons _ _
  | cons _ ih =>
    rw [List.flatMap_cons, List.flatMap_cons]
    exact List.append_left_lt ih
  | rel hlt => exact encodeChar_lt hlt _ _

end OciCompose.Utf8
