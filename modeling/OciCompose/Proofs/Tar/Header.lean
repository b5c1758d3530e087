import Mathlib.Algebra.Group.Nat.Defs
import OciCompose.Tar.Header

/-
  Reading a header gives what was written into it.
  `readNumber_number`: a number field of either form holds its number. `isIntact_encode`: a header whose
  fields have their widths has the magic, and its checksum is the sum of its bytes. `decode?_encode`: it
  is 512 bytes long and is read back.
-/

namespace OciCompose.Tar

/-! ## Numbers -/

/-- The digits `f` of a number in base `b`, read by their values `v` from the highest of `w` down. -/
theorem foldl_digits {b n w : Nat} (f : Nat → UInt8) (v : UInt8 → Nat)
    (h : ∀ i < w, v (f i) = n / b ^ i % b) (high : Nat) :
    ((List.range w).reverse.map f).foldl (fun m d => b * m + v d) high =
      high * b ^ w + n % b ^ w := by
  induction w generalizing high with
  | zero => simp [Nat.mod_one]
  | succ w ih =>
    have hstep : (b * high + n / b ^ w % b) * b ^ w + n % b ^ w =
        high * b ^ (w + 1) + n % b ^ (w + 1) := by
      rw [Nat.mod_pow_succ, Nat.pow_succ, Nat.add_mul, Nat.mul_comm (n / b ^ w % b),
        Nat.mul_comm b high, Nat.mul_assoc, Nat.mul_comm b]
      omega
    rw [List.range_succ, List.reverse_append, List.map_append, List.foldl_append]
    simp only [List.reverse_singleton, List.map_cons, List.map_nil, List.foldl_cons, List.foldl_nil]
    rw [ih (fun i hi => h i (by omega)), h w (by omega), hstep]

theorem untilNul_append {bs : Bytes} (h : 0 ∉ bs) (zeros : Nat) :
    untilNul (bs ++ List.replicate zeros 0) = bs := by
  unfold untilNul
  rw [List.takeWhile_append_of_pos]
  · cases zeros <;> simp [List.replicate_succ]
  · intro b hb
    simp only [bne_iff_ne, ne_eq]
    rintro rfl
    exact h hb

theorem toNat_octalDigit (n : Nat) : (UInt8.ofNat (48 + n % 8)).toNat = 48 + n % 8 := by
  rw [UInt8.toNat_ofNat']
  omega

@[simp] theorem length_octal (width n : Nat) : (octal width n).length = width + 1 := by
  simp [octal]

theorem readNumber_octal {width n : Nat} (h : n < 8 ^ width) : readNumber (octal width n) = n := by
  have hlow : ∀ b rest, octal width n = b :: rest → ¬ 0x80 ≤ b := by
    intro b rest hb hle
    have hmem : b ∈ octal width n := hb ▸ List.mem_cons_self
    unfold octal at hmem
    rcases List.mem_append.1 hmem with hmem | hmem
    · obtain ⟨i, -, rfl⟩ := List.mem_map.1 hmem
      have := UInt8.le_iff_toNat_le.1 hle
      rw [toNat_octalDigit] at this
      simp at this
      omega
    · rw [List.mem_singleton.1 hmem] at hle
      exact absurd hle (by decide)
  have huntil : untilNul (octal width n) =
      (List.range width).reverse.map fun i => UInt8.ofNat (48 + n / Nat.pow 8 i % 8) := by
    refine untilNul_append ?_ 1
    intro hmem
    obtain ⟨i, -, hi⟩ := List.mem_map.1 hmem
    have := congrArg UInt8.toNat hi
    rw [toNat_octalDigit] at this
    simp at this
  have hvalue : ∀ i < width, (UInt8.ofNat (48 + n / Nat.pow 8 i % 8)).toNat - 48 = n / 8 ^ i % 8 := by
    intro i _
    rw [toNat_octalDigit, Nat.add_sub_cancel_left]
    rfl
  have hfold := foldl_digits (fun i => UInt8.ofNat (48 + n / Nat.pow 8 i % 8))
    (fun d => d.toNat - 48) hvalue 0
  rw [Nat.zero_mul, Nat.zero_add, Nat.mod_eq_of_lt h] at hfold
  unfold readNumber
  split
  · next b rest hb =>
    rw [if_neg (hlow b rest hb), huntil]
    exact hfold
  · next hb =>
    have := congrArg List.length hb
    simp at this

/-- The mark of the big-endian form, put on a byte without it and taken off again. -/
theorem unmark_mark (b : UInt8) (h : b < 0x80) :
    0x80 ≤ (b ||| 0x80) ∧ (b ||| 0x80) &&& 0x7F = b := by
  have hall : ∀ n < 128, 0x80 ≤ (UInt8.ofNat n ||| 0x80) ∧
      (UInt8.ofNat n ||| 0x80) &&& 0x7F = UInt8.ofNat n := by decide
  have hb := hall b.toNat (UInt8.lt_iff_toNat_lt.1 h)
  rwa [UInt8.ofNat_toNat] at hb

@[simp] theorem length_base256 (width n : Nat) : (base256 width n).length = width := by
  unfold base256
  split
  · next b bs h => simpa using (congrArg List.length h).symm
  · next h => simpa using (congrArg List.length h).symm

/-- A number of 64 bits that leaves the bit of the mark free is read back. -/
theorem readNumber_base256 {width n : Nat} (hw : 0 < width) (h : n < 2 ^ 64)
    (hmark : 2 * n < 256 ^ width) : readNumber (base256 width n) = n := by
  have hbyte : ∀ i, (UInt8.ofNat (if i < 8 then n / Nat.pow 256 i % 256 else 0)).toNat =
      n / 256 ^ i % 256 := by
    intro i
    rw [UInt8.toNat_ofNat']
    split
    · exact Nat.mod_mod _ _
    · next hi =>
      have hpow : 256 ^ 8 ≤ 256 ^ i := Nat.pow_le_pow_right (by decide) (by omega)
      rw [Nat.div_eq_of_lt (by omega)]
  have hfold := foldl_digits (w := width)
    (fun i => UInt8.ofNat (if i < 8 then n / Nat.pow 256 i % 256 else 0)) UInt8.toNat
    (fun i _ => hbyte i) 0
  rw [Nat.zero_mul, Nat.zero_add, Nat.mod_eq_of_lt (by omega)] at hfold
  obtain ⟨k, rfl⟩ : ∃ k, width = k + 1 := ⟨width - 1, by omega⟩
  rw [List.range_succ, List.reverse_append, List.map_append] at hfold
  unfold base256
  rw [List.range_succ, List.reverse_append, List.map_append]
  simp only [List.reverse_singleton, List.map_cons, List.map_nil, List.cons_append,
    List.nil_append] at hfold ⊢
  have hfirst : UInt8.ofNat (if k < 8 then n / Nat.pow 256 k % 256 else 0) < 0x80 := by
    rw [UInt8.lt_iff_toNat_lt, hbyte]
    have hhigh : n / 256 ^ k < 128 := by
      rw [Nat.pow_succ] at hmark
      rw [Nat.div_lt_iff_lt_mul (Nat.pow_pos (by decide))]
      omega
    exact Nat.lt_of_le_of_lt (Nat.mod_le _ _) hhigh
  obtain ⟨hmarked, hunmark⟩ := unmark_mark _ hfirst
  unfold readNumber bigEndian
  dsimp only
  rw [if_pos hmarked, hunmark]
  exact hfold

@[simp] theorem length_number (width n : Nat) : (number width n).length = width + 1 := by
  unfold number
  split <;> simp

theorem readNumber_number {width n : Nat} (h : n < 2 ^ 64) (hmark : 2 * n < 256 ^ (width + 1)) :
    readNumber (number width n) = n := by
  unfold number
  split
  · next hn => exact readNumber_octal hn
  · exact readNumber_base256 (Nat.succ_pos width) h hmark

/-! ## Headers -/

/-- The fields of a header have their widths, and its numbers a place in them. -/
structure Header.Fits (h : Header) : Prop where
  name : h.name.length = nameWidth
  link : h.link.length = nameWidth
  mode : h.mode < 8 ^ 7
  uid : h.uid < 2 ^ 63
  gid : h.gid < 2 ^ 63
  size : h.size < 2 ^ 64
  mtime : h.mtime < 2 ^ 64

theorem field_append {front bs : Bytes} {start width : Nat} (h : front.length ≤ start) :
    field (front ++ bs) start width = field bs (start - front.length) width := by
  unfold field
  rw [List.drop_append, List.drop_of_length_le h, List.nil_append]

theorem field_zero {bs rest : Bytes} {width : Nat} (h : bs.length = width) :
    field (bs ++ rest) 0 width = bs := by
  unfold field
  rw [List.drop_zero, ← h, List.take_left]

theorem Kind.ofFlag?_flag (k : Kind) : Kind.ofFlag? k.flag = some k := by
  cases k <;> rfl

theorem Header.length_encode {h : Header} (hf : h.Fits) : h.encode.length = blockSize := by
  unfold encode front back
  simp only [List.length_append, List.length_cons, length_octal, length_number, hf.name, hf.link,
    List.length_replicate]
  decide

/-! ### Checksums -/

/-- A sum that begins with a number. -/
theorem Header.foldl_add (bs : Bytes) (n : Nat) :
    bs.foldl (fun n b => n + b.toNat) n = n + Header.sum bs := by
  induction bs generalizing n with
  | nil => rfl
  | cons b bs ih => rw [sum, List.foldl_cons, List.foldl_cons, ih, ih, Nat.zero_add, Nat.add_assoc]

theorem Header.sum_append (bs cs : Bytes) :
    Header.sum (bs ++ cs) = Header.sum bs + Header.sum cs := by
  rw [sum, List.foldl_append, foldl_add]
  rfl

theorem Header.sum_le (bs : Bytes) : Header.sum bs ≤ 255 * bs.length := by
  induction bs with
  | nil => exact Nat.le_refl 0
  | cons b bs ih =>
    have hb := b.toNat_lt
    rw [sum, List.foldl_cons, foldl_add, Nat.zero_add, List.length_cons]
    omega

section

variable {h : Header} (hf : h.Fits)
include hf

theorem Header.length_front : h.front.length = 148 := by
  unfold front
  simp only [List.length_append, length_octal, length_number, hf.name]
  rfl

theorem Header.length_back : h.back.length = 356 := by
  unfold back
  simp only [List.length_append, List.length_cons, hf.link, List.length_replicate]
  rfl

/-- A checksum has a place in its field: all bytes together are less than the field can hold. -/
theorem Header.checksum_lt : h.checksum < 8 ^ 7 := by
  have hfront := sum_le h.front
  have hback := sum_le h.back
  rw [length_front hf] at hfront
  rw [length_back hf] at hback
  unfold checksum
  omega

/-- The checksum of a header is the one that its block has to have. -/
theorem Header.checksumOf_encode : checksumOf h.encode = h.checksum := by
  have htake : h.encode.take 148 = h.front := by
    rw [encode, List.append_assoc, ← length_front hf, List.take_left]
  have hdrop : h.encode.drop 156 = h.back := by
    have hlength : (h.front ++ octal 7 h.checksum).length = 156 := by
      rw [List.length_append, length_front hf, length_octal]
    rw [encode, ← hlength, List.drop_left]
  have hspaces : sum (List.replicate 8 0x20) = 8 * 0x20 := by decide
  unfold checksumOf checksum
  dsimp only
  rw [htake, hdrop, foldl_add, Nat.zero_add, sum_append, sum_append, hspaces]

/-- A header is made of its fields, each at its place. -/
theorem Header.fields_encode :
    field h.encode 0 100 = h.name ∧ field h.encode 100 8 = octal 7 h.mode ∧
      field h.encode 108 8 = number 7 h.uid ∧ field h.encode 116 8 = number 7 h.gid ∧
      field h.encode 124 12 = number 11 h.size ∧ field h.encode 136 12 = number 11 h.mtime ∧
      field h.encode 148 8 = octal 7 h.checksum ∧ field h.encode 156 1 = [h.kind.flag] ∧
      field h.encode 157 100 = h.link ∧ field h.encode 257 8 = magic := by
  have hshape : h.encode = h.name ++ (octal 7 h.mode ++ (number 7 h.uid ++ (number 7 h.gid ++
      (number 11 h.size ++ (number 11 h.mtime ++ (octal 7 h.checksum ++ ([h.kind.flag] ++
        (h.link ++ (magic ++ List.replicate 247 0))))))))) := by
    simp only [encode, front, back, List.append_assoc, List.cons_append, List.nil_append]
  have hname := hf.name
  have hlink := hf.link
  have hmagic : magic.length = 8 := rfl
  unfold nameWidth at hname hlink
  rw [hshape]
  refine ⟨?_, ?_, ?_, ?_, ?_, ?_, ?_, ?_, ?_, ?_⟩ <;>
    simp (disch := simp [hname, hlink, hmagic]) only [field_append, field_zero, length_octal,
      length_number, List.length_singleton, hname, hlink, Nat.reduceAdd, Nat.reduceSub, Nat.sub_self]

/-- A header that is written is intact. -/
theorem Header.isIntact_encode : isIntact h.encode = true := by
  obtain ⟨-, -, -, -, -, -, hchecksum, -, -, hmagic⟩ := fields_encode hf
  unfold isIntact
  rw [decide_eq_true_iff, hchecksum, hmagic, readNumber_octal (checksum_lt hf), checksumOf_encode hf]
  exact ⟨by decide, rfl⟩

/-- A header is read back. -/
theorem Header.decode?_encode : Header.decode? h.encode = some h := by
  obtain ⟨hname, hmode, huid, hgid, hsize, hmtime, -, hflag, hlink, -⟩ := fields_encode hf
  have hkind : (field h.encode 156 1).head?.bind Kind.ofFlag? = some h.kind := by
    rw [hflag]
    exact h.kind.ofFlag?_flag
  have hu := hf.uid
  have hg := hf.gid
  have hs := hf.size
  have ht := hf.mtime
  unfold decode?
  rw [if_pos (isIntact_encode hf), hkind, hname, hmode, huid, hgid, hsize, hmtime, hlink,
    readNumber_octal hf.mode, readNumber_number (by omega) (by omega),
    readNumber_number (by omega) (by omega), readNumber_number hs (by omega),
    readNumber_number ht (by omega)]

end

end OciCompose.Tar
