import OciCompose.Error
import OciCompose.Path
import OciCompose.Tar.Header

/-
  Names and link targets in header fields.
  A path is written component by component, so that empty components and inner `.` disappear. What
  does not fit its field goes into an entry of its own before the entry it belongs to.
-/

namespace OciCompose.Tar

/-- What is put into a field next; `refused` if a component has no place in an archive. -/
inductive Piece where
  | bytes (b : Bytes)
  | refused (fault : ArchiveFault)
deriving DecidableEq

def Piece.ofChars (cs : List Char) : Piece := .bytes (cs.flatMap String.utf8EncodeChar)

def Piece.isRefused : Piece → Bool
  | bytes _ => false
  | refused _ => true

def slash : Piece := .bytes [0x2F]

/-- The components of a name as pieces. A name is relative and does not go up, and a `.` counts only
    on its own. `cut` says that the name is cut off, so that its last component may be more than the
    `..` it looks like. -/
def nameComponents (cut : Bool) (alone : Bool) : List Path.Component → List Piece
  | [] => []
  | .root :: rest => .refused .absolute :: nameComponents cut alone rest
  | .current :: rest =>
    if alone then .ofChars ['.'] :: nameComponents cut alone rest
    else nameComponents cut alone rest
  | .parent :: rest =>
    (if cut ∧ rest = [] then .ofChars ['.', '.'] else .refused .parent) ::
      nameComponents cut alone rest
  | .name n :: rest => .ofChars n :: nameComponents cut alone rest

def linkComponents (cs : List Path.Component) : List Piece := cs.map fun c => .ofChars c.text

/-- Slashes between pieces. The root is a slash already, and none leads to a refused piece. -/
def withSlashes : List Piece → List Piece
  | [] => []
  | [p] => [p]
  | p :: q :: rest =>
    if p = slash ∨ q.isRefused then p :: withSlashes (q :: rest)
    else p :: slash :: withSlashes (q :: rest)

/-- A path without components is refused; a slash at the end of one with components is kept. -/
def finish (path : List Char) (pieces : List Piece) : List Piece :=
  if pieces = [] then [.refused .empty]
  else withSlashes pieces ++ if path.getLast? = some '/' then [slash] else []

def namePieces (cut : Bool) (path : List Char) : List Piece :=
  let cs := Path.components path
  finish path (nameComponents cut (cs.length == 1) cs)

def linkPieces (path : List Char) : List Piece := finish path (linkComponents (Path.components path))

/-- Overwrites a field at an offset with some bytes and, where there is room, a NUL. -/
def overwrite (fld : Bytes) (offset : Nat) (b : Bytes) : Bytes :=
  (fld.take offset ++ b ++ 0 :: fld.drop (offset + b.length + 1)).take fld.length

/-- Fills a field with pieces from an offset on, up to the first that is refused, does not fit or
    has a NUL; and why that one did not go in. -/
def fill (fld : Bytes) (offset : Nat) : List Piece → Bytes × Option ArchiveFault
  | [] => (fld, none)
  | .refused f :: _ => (fld, some f)
  | .bytes b :: rest =>
    if fld.length - offset < b.length then (fld, some .tooLong)
    else if b.contains 0 then (fld, some .nul)
    else fill (overwrite fld offset b) (offset + b.length) rest

def blank : Bytes := List.replicate nameWidth 0

/-- What is in a field, as a text. -/
def written (fld : Bytes) : String := Utf8.decodeLossy (untilNul fld)

/-- As many characters as fit a number of bytes. -/
def cutTo : Nat → List Char → List Char
  | _, [] => []
  | room, c :: cs => if c.utf8Size ≤ room then c :: cutTo (room - c.utf8Size) cs else []

/-- A filled field, and whether the text needs an entry of its own. -/
structure Filled where
  bytes : Bytes
  long : Bool

def byteLength (cs : List Char) : Nat := (cs.flatMap String.utf8EncodeChar).length

/-- The name field. A long name is cut off at 100 bytes there, over what was tried before. -/
def fillName (path : List Char) : Except IoFault Filled :=
  match fill blank 0 (namePieces false path) with
  | (fld, none) => .ok ⟨fld, false⟩
  | (fld, some f) =>
    if byteLength path < nameWidth then .error (.archivePath f (written fld))
    else
      match fill fld 0 (namePieces true (cutTo nameWidth path)) with
      | (fld, none) => .ok ⟨fld, true⟩
      | (fld, some f) => .error (.archivePath f (written fld))

/-- The link field of an entry with a name. A long target leaves there what was tried. -/
def fillLink (name : Filled) (target : List Char) : Except IoFault Filled :=
  match fill blank 0 (linkPieces target) with
  | (fld, none) => .ok ⟨fld, false⟩
  | (fld, some f) =>
    if byteLength target < nameWidth then .error (.archiveLink f (written name.bytes))
    else .ok ⟨fld, true⟩

end OciCompose.Tar
