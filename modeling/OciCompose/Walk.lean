import OciCompose.Tree
import OciCompose.Ignore.Rules

/-
  The files and symlinks below a directory that ignore rules leave, in ascending order of their
  paths. Directories are descended even if they are ignored; symlinks are not followed, the root
  apart. A walk fails if the path of a directory or of a file that it keeps gets too long.
-/

namespace OciCompose

inductive SourceKind where
  | file (content : Bytes)
  | symlink (target : String)
deriving DecidableEq

/-- A file or a symlink below a root; its mode has the bits of its type. -/
structure SourceFile where
  /-- The path below the root. -/
  relative : String
  kind : SourceKind
  mode : UInt32
deriving DecidableEq

namespace SourceFile

/-- The length of a file; nothing for a symlink. -/
def size (f : SourceFile) : Nat :=
  match f.kind with
  | .file content => content.length
  | .symlink _ => 0

/-- Whether the content of a file may be read, or the target of a symlink. -/
def isReadable (f : SourceFile) : Bool :=
  match f.kind with
  | .file _ => Tree.isReadable f.mode
  | .symlink _ => true

end SourceFile

namespace Tree

/-- The type bits of a regular file. -/
def fileType : UInt32 := 0o100000

/-- The mode of a symlink, with its type bits. -/
def symlinkMode : UInt32 := 0o120777

/-- The path of a child of what has a path. -/
def childPath (parent name : String) : String :=
  if parent.isEmpty then name else parent ++ "/" ++ name

mutual

/-- The files and symlinks in a tree that itself has the path `relative`. -/
def sources (relative : String) : Tree → List SourceFile
  | .file content mode => [⟨relative, .file content, fileType ||| mode⟩]
  | .link target => [⟨relative, .symlink target, symlinkMode⟩]
  | .dir children => sourcesIn relative children

def sourcesIn (parent : String) : List (String × Tree) → List SourceFile
  | [] => []
  | (name, t) :: rest => sources (childPath parent name) t ++ sourcesIn parent rest

end

mutual

/-- The directories in a tree that itself has the path `relative`. -/
def directories (relative : String) : Tree → List String
  | .file .. | .link _ => []
  | .dir children => relative :: directoriesIn relative children

def directoriesIn (parent : String) : List (String × Tree) → List String
  | [] => []
  | (name, t) :: rest => directories (childPath parent name) t ++ directoriesIn parent rest

end

/-- Everything that a walk meets: the directory that the root leads to, after the root itself if that
    is a symlink. -/
def allSources (top : Tree) (root : String) (children : List (String × Tree)) : List SourceFile :=
  let self :=
    match top.at? root with
    | some (.link target) => [⟨"", .symlink target, symlinkMode⟩]
    | _ => []
  self ++ sourcesIn "" children

/-- The path of something that has a path below a root. -/
def pathBelow (root relative : String) : String :=
  if relative.isEmpty then root
  else if root.toList.getLast? = some '/' then root ++ relative
  else root ++ "/" ++ relative

/-- Whether something below a root is too far from it to be looked at. -/
def isFar (root relative : String) : Bool := pathLimit ≤ (pathBelow root relative).utf8ByteSize

/-- The first of some paths in the order of a walk: a directory comes before what is in it, and that
    in the order of the names. -/
def firstMet? (paths : List String) : Option String :=
  let names (p : String) : List (List Char) := p.toList.splitOn '/'
  (paths.mergeSort fun a b => !(names b < names a)).head?

/-- The files and symlinks below `root` that are not ignored, in ascending order of their paths. -/
def walk (top : Tree) (root : String) (ignore : IgnoreRules) : Except Error (List SourceFile) :=
  match top.resolve root with
  | .error e => .error (.io e)
  | .ok (.dir children) =>
    let kept := (top.allSources root children).filter fun f => !ignore.ignores f.relative
    let looked := directoriesIn "" children ++ kept.map SourceFile.relative
    match firstMet? (looked.filter (isFar root)) with
    | some relative => .error (.walk (pathBelow root relative) .nameTooLong)
    | none => .ok (kept.mergeSort fun a b => a.relative ≤ b.relative)
  | .ok _ => .error (.invalidConfig (.rootIsFile root))

end Tree

end OciCompose
