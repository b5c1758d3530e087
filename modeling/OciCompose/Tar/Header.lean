import OciCompose.Utf8

/-
  The 512-byte headers of GNU tar archives.
-/

namespace OciCompose.Tar

def blockSize : Nat := 512

/-- The width of the name and link fields. -/
def nameWidth : Nat := 100

/-- The kinds of entries that are written here. -/
inductive Kind where
  | file
  | symlink
  | longName
  | longLink
deriving DecidableEq

def Kind.flag : Kind → UInt8
  | file => 0x30
  | symlink => 0x32
  | longName => 0x4C
  | longLink => 0x4B

def Kind.ofFlag? (b : UInt8) : Option Kind :=
  if b = 0x30 ∨ b = 0 then some .file
  else if b = 0x32 then some .symlink
  else if b = 0x4C then some .longName
  else if b = 0x4B then some .longLink
  else none

/-- `name` and `link` are the whole fields, 100 bytes each. -/
structure Header where
  name : Bytes
  mode : Nat
  uid : Nat
  gid : Nat
  size : Nat
  mtime : Nat
  kind : Kind
  link : Bytes

/-- The lowest octal digits of a number and a NUL, in `width + 1` bytes. -/
def octal (width n : Nat) : Bytes :=
  (List.range width).reverse.map (fun i => UInt8.ofNat (48 + n / Nat.pow 8 i % 8)) ++ [0]

/-- A number of at most 64 bits in big-endian bytes, the first bit set to mark that it is so. -/
def base256 (width n : Nat) : Bytes :=
  match (List.range width).reverse.map fun i => UInt8.ofNat (if i < 8 then n / Nat.pow 256 i % 256 else 0)
  with
  | b :: bs => (b ||| 0x80) :: bs
  | [] => []

/-- Octal digits if they suffice, else big-endian bytes, in `width + 1` bytes. -/
def number (width n : Nat) : Bytes :=
  if n < Nat.pow 8 width then octal width n else base256 (width + 1) n

def magic : Bytes := [0x75, 0x73, 0x74, 0x61, 0x72, 0x20, 0x20, 0]

namespace Header

/-- The bytes before the checksum. -/
def front (h : Header) : Bytes :=
  h.name ++ octal 7 h.mode ++ number 7 h.uid ++ number 7 h.gid ++ number 11 h.size ++
    number 11 h.mtime

/-- The bytes behind the checksum. Owner names and device numbers stay empty. -/
def back (h : Header) : Bytes := h.kind.flag :: h.link ++ magic ++ List.replicate 247 0

def sum (bs : Bytes) : Nat := bs.foldl (fun n b => n + b.toNat) 0

/-- The sum of all bytes, the checksum itself counting as eight spaces. -/
def checksum (h : Header) : Nat := sum h.front + 8 * 0x20 + sum h.back

def encode (h : Header) : Bytes := h.front ++ octal 7 h.checksum ++ h.back

end Header

/-! ## Reading -/

/-- The bytes before the first NUL. -/
def untilNul (bs : Bytes) : Bytes := bs.takeWhile (· != 0)

def bigEndian (bs : Bytes) : Nat := bs.foldl (fun n b => 256 * n + b.toNat) 0

/-- A number field, in either form. -/
def readNumber (bs : Bytes) : Nat :=
  match bs with
  | b :: rest =>
    if 0x80 ≤ b then bigEndian ((b &&& 0x7F) :: rest)
    else (untilNul bs).foldl (fun n b => 8 * n + (b.toNat - 48)) 0
  | [] => 0

/-- The part of a block from `start` on. -/
def field (block : Bytes) (start width : Nat) : Bytes := (block.drop start).take width

/-- What the checksum of a block has to be: the sum of its bytes, with spaces for the checksum. -/
def checksumOf (block : Bytes) : Nat :=
  let counted : Bytes := block.take 148 ++ List.replicate 8 0x20 ++ block.drop 156
  counted.foldl (fun n b => n + b.toNat) 0

/-- A block has the magic of GNU archives, and a checksum that is right. -/
def isIntact (block : Bytes) : Bool :=
  field block 257 8 = Utf8.encode "ustar  " ++ [0] ∧ readNumber (field block 148 8) = checksumOf block

/-- Reads an intact header of 512 bytes of a known kind. -/
def Header.decode? (block : Bytes) : Option Header :=
  if isIntact block then
    match (field block 156 1).head?.bind Kind.ofFlag? with
    | none => none
    | some kind => some {
        name := field block 0 100
        mode := readNumber (field block 100 8)
        uid := readNumber (field block 108 8)
        gid := readNumber (field block 116 8)
        size := readNumber (field block 124 12)
        mtime := readNumber (field block 136 12)
        kind
        link := field block 157 100 }
  else none

end OciCompose.Tar
