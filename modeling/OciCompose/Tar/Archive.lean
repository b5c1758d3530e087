import OciCompose.Tar.Name

/-
  Archives of files and symlinks: `write` makes one and `read?` takes it apart.
-/

namespace OciCompose.Tar

inductive Body where
  | file (content : Bytes)
  | symlink (target : String)
deriving DecidableEq

structure Member where
  path : String
  mode : Nat
  uid : Nat
  gid : Nat
  mtime : Nat
  body : Body
deriving DecidableEq

/-- Content padded with zeros to whole blocks. -/
def padded (content : Bytes) : Bytes :=
  content ++ List.replicate ((blockSize - content.length % blockSize) % blockSize) 0

def record (h : Header) (content : Bytes) : Bytes := h.encode ++ padded content

/-- The name field of entries that carry a long name or link. -/
def longMarker : Bytes :=
  let name := Utf8.encode "././@LongLink"
  name ++ List.replicate (nameWidth - name.length) 0

/-- The entry that carries a long name or link for the next one. -/
def longRecord (kind : Kind) (text : List Char) : Bytes :=
  let content := text.flatMap String.utf8EncodeChar ++ [0]
  record
    { name := longMarker, mode := 0o644, uid := 0, gid := 0, size := content.length, mtime := 0,
      kind, link := blank }
    content

/-- An entry with its long forms, if its path and target have a place in an archive. -/
def Member.write (m : Member) : Except IoFault Bytes := do
  let path := m.path.toList
  let name ← fillName path
  let long := if name.long then longRecord .longName path else []
  match m.body with
  | .file content =>
    return long ++ record
      { name := name.bytes, mode := m.mode, uid := m.uid, gid := m.gid, size := content.length,
        mtime := m.mtime, kind := .file, link := blank }
      content
  | .symlink target =>
    let link ← fillLink name target.toList
    return long ++ (if link.long then longRecord .longLink target.toList else []) ++ record
      { name := name.bytes, mode := m.mode, uid := m.uid, gid := m.gid, size := 0,
        mtime := m.mtime, kind := .symlink, link := link.bytes }
      []

/-- The two blocks at the end of an archive. -/
def trailer : Bytes := List.replicate (2 * blockSize) 0

/-- The entries one behind the other, up to the first that cannot be written. -/
def writeMembers : List Member → Except IoFault Bytes
  | [] => .ok []
  | m :: ms =>
    match m.write with
    | .error f => .error f
    | .ok b => (writeMembers ms).map (b ++ ·)

def write (ms : List Member) : Except IoFault Bytes := (writeMembers ms).map (· ++ trailer)

/-! ## Reading -/

/-- Drops the NUL at the end of a long name. -/
def dropNul (bs : Bytes) : Bytes := if bs.getLast? = some 0 then bs.dropLast else bs

/-- Long forms that wait for the entry they belong to. -/
structure Pending where
  name : Option Bytes := none
  link : Option Bytes := none

/-- Reads at most `fuel` entries, up to a block of zeros. -/
def readFrom : Nat → Pending → Bytes → Option (List Member)
  | 0, _, _ => none
  | fuel + 1, pending, bs =>
    let block := bs.take blockSize
    if block.all (· == 0) then some []
    else
      match Header.decode? block with
      | none => none
      | some h =>
        let rest := bs.drop blockSize
        let content := rest.take h.size
        let rest := rest.drop (h.size + (blockSize - h.size % blockSize) % blockSize)
        let member (body : Body) : Member :=
          { path := Utf8.decodeLossy (pending.name.getD (untilNul h.name))
            mode := h.mode, uid := h.uid, gid := h.gid, mtime := h.mtime, body }
        match h.kind with
        | .longName => readFrom fuel { pending with name := some (dropNul content) } rest
        | .longLink => readFrom fuel { pending with link := some (dropNul content) } rest
        | .file => (readFrom fuel {} rest).map (member (.file content) :: ·)
        | .symlink =>
          let target := Utf8.decodeLossy (pending.link.getD (untilNul h.link))
          (readFrom fuel {} rest).map (member (.symlink target) :: ·)

/-- The entries of an archive. Each takes at least a block. -/
def read? (bs : Bytes) : Option (List Member) := readFrom (bs.length / blockSize + 1) {} bs

end OciCompose.Tar
