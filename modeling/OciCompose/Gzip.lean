import OciCompose.Utf8

/-
  Gzip members that hold their content in stored blocks, the way compressors leave content that would
  not get smaller. Layers take any compressor; this is the one of the program.
-/

namespace OciCompose.Gzip

/-- A number in bytes, the lowest first. -/
def littleEndian (width n : Nat) : Bytes :=
  (List.range width).map fun i => UInt8.ofNat (n / Nat.pow 256 i)

/-- A step of the division that a checksum is the remainder of. -/
def divided (c : UInt32) : UInt32 :=
  if c &&& 1 = 1 then (c >>> 1) ^^^ 0xEDB88320 else c >>> 1

def crc32 (bs : Bytes) : UInt32 :=
  bs.foldl (fun c b => Nat.repeat divided 8 (c ^^^ b.toUInt32)) 0xFFFFFFFF ^^^ 0xFFFFFFFF

/-- What the length of a block has a place for. -/
def blockLimit : Nat := 0xFFFF

/-- A stored block: whether it is the last one, its length and the complement of that, and its bytes. -/
def block (last : Bool) (bs : Bytes) : Bytes :=
  (if last then 1 else 0) :: littleEndian 2 bs.length ++ littleEndian 2 (blockLimit - bs.length) ++ bs

def blocks (bs : Bytes) : Bytes :=
  if bs.length ≤ blockLimit then block true bs
  else block false (bs.take blockLimit) ++ blocks (bs.drop blockLimit)
termination_by bs.length
decreasing_by
  have hpositive : 0 < blockLimit := by decide
  rw [List.length_drop]
  omega

/-- Mark, method and unknown system; there is no name and no time. -/
def header : Bytes := [0x1F, 0x8B, 8, 0, 0, 0, 0, 0, 0, 0xFF]

/-- Content as a gzip member. -/
def stored (bs : Bytes) : Bytes :=
  header ++ blocks bs ++ littleEndian 4 (crc32 bs).toNat ++ littleEndian 4 bs.length

@[simp] theorem length_littleEndian (width n : Nat) : (littleEndian width n).length = width := by
  simp [littleEndian]

@[simp] theorem length_block (last : Bool) (bs : Bytes) : (block last bs).length = 5 + bs.length := by
  rw [block, List.length_append, List.length_append, List.length_cons, length_littleEndian,
    length_littleEndian]

/-- Content of one block is framed by 23 bytes. -/
theorem length_stored {bs : Bytes} (h : bs.length ≤ blockLimit) :
    (stored bs).length = 23 + bs.length := by
  have hheader : header.length = 10 := rfl
  unfold stored blocks
  rw [if_pos h]
  simp only [List.length_append, hheader, length_block, length_littleEndian]
  omega

end OciCompose.Gzip
