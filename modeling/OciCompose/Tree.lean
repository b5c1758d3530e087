import OciCompose.Error
import OciCompose.Path
import OciCompose.Utf8

/-
  File trees: directories of files, symlinks and directories, in whatever order they are listed.
  A path is looked up from the top of a tree, through symlinks. Around the tree are only empty
  directories, in which nothing can be made.
-/

namespace OciCompose

inductive Tree where
  | file (content : Bytes) (mode : UInt32)
  | link (target : String)
  | dir (children : List (String × Tree))

namespace Tree

def empty : Tree := .dir []

/-- A component of a path: nothing between two slashes, a dot, two dots, or the name of a child. -/
inductive Step where
  | empty
  | stay
  | up
  | child (name : String)
deriving DecidableEq

/-- The steps of a path. -/
def steps (path : String) : List Step :=
  (path.toList.splitOn '/').map fun s =>
    if s = [] then .empty
    else if s = ['.'] then .stay
    else if s = ['.', '.'] then .up
    else .child (String.ofList s)

/-- How many symlinks a look-up follows at most. -/
def maxLinks : Nat := 40

/-- How many bytes a name has at most. -/
def maxName : Nat := 255

/-- A path of so many bytes is too long. -/
def pathLimit : Nat := 4096

/-- Why a path is refused before anything is looked up. -/
def pathFault? (path : String) : Option IoFault :=
  if path.toList.contains '\x00' then some .nulInPath
  else if path.isEmpty then some .notFound
  else if pathLimit ≤ path.utf8ByteSize then some .nameTooLong
  else none

/-- Follows steps from the innermost of some nested directories. Symlinks are resolved in the
    directory that holds them. -/
def follow (links : Nat) (here : Tree) (outer : List Tree) (path : List Step) :
    Except IoFault Tree :=
  match path with
  | [] => .ok here
  | step :: rest =>
    match here with
    | .file .. => .error .notADirectory
    | .link _ => .error .notADirectory
    | .dir children =>
      match step with
      | .empty | .stay => follow links here outer rest
      | .up =>
        match outer with
        | [] => follow links empty [] rest
        | o :: os => follow links o os rest
      | .child name =>
        if maxName < name.utf8ByteSize then .error .nameTooLong
        else
          match children.lookup name with
          | none => .error .notFound
          | some (.link target) =>
            match links with
            | 0 => .error .tooManyLinks
            | n + 1 =>
              if target.isEmpty then .error .notFound
              else if Path.isAbsolute target then follow n empty [] (steps target ++ rest)
              else follow n here outer (steps target ++ rest)
          | some t => follow links t (here :: outer) rest
termination_by (links, path.length)

/-- What a path leads to, through symlinks. -/
def resolve (top : Tree) (path : String) : Except IoFault Tree :=
  match pathFault? path with
  | some f => .error f
  | none => follow maxLinks (if Path.isAbsolute path then empty else top) [] (steps path)

/-- Whether the owner of a file may read it. -/
def isReadable (mode : UInt32) : Bool := mode &&& 0o400 ≠ 0

/-- Whether the owner of a file may write it. -/
def isWritable (mode : UInt32) : Bool := mode &&& 0o200 ≠ 0

/-- The content of a file. -/
def read (top : Tree) (path : String) : Except IoFault Bytes :=
  match top.resolve path with
  | .ok (.file content mode) => if isReadable mode then .ok content else .error .permissionDenied
  | .ok (.link _) => .error .tooManyLinks
  | .ok (.dir _) => .error .isADirectory
  | .error e => .error e

/-- The text of a file. -/
def readText (top : Tree) (path : String) : Except IoFault String :=
  match top.read path with
  | .ok content =>
    match Utf8.decode? content with
    | some s => .ok s
    | none => .error .notText
  | .error e => .error e

/-- What lies at a path that is itself not followed if it is a symlink. A slash at its end follows
    it. -/
def at? (top : Tree) (path : String) : Option Tree :=
  match (steps path).reverse with
  | .child name :: outer =>
    match follow maxLinks top [] outer.reverse with
    | .ok (.dir children) => children.lookup name
    | _ => none
  | _ => (top.resolve path).toOption

/-- Puts a child into a directory, instead of one of the same name. -/
def putChild (name : String) (t : Tree) (children : List (String × Tree)) : List (String × Tree) :=
  if (children.lookup name).isSome then
    children.map fun c => if c.1 = name then (name, t) else c
  else children ++ [(name, t)]

/-- Puts something at a path of names, making the directories above it. -/
def put (new : Tree) : List String → Tree → Tree
  | [], _ => new
  | n :: ns, .dir children =>
    .dir (putChild n (put new ns ((children.lookup n).getD empty)) children)
  | n :: ns, _ => .dir [(n, put new ns empty)]

/-- What lies at a place, which is given by names from the top. -/
def child? : List String → Tree → Option Tree
  | [], t => some t
  | n :: ns, .dir children => (children.lookup n).bind (child? ns)
  | _ :: _, _ => none

/-- The place of the file that a path leads to from a directory, through symlinks, whether it exists
    or not. A directory outside of the tree has no place. A name with a slash behind it could only be
    that of a directory, so it is not looked up. -/
def placeFrom (links : Nat) (top : Tree) (here : Option (List String)) (path : List Step) :
    Except IoFault (List String) :=
  match path with
  | [] => .error .isADirectory
  | .empty :: rest | .stay :: rest => placeFrom links top here rest
  | .up :: rest =>
    placeFrom links top (here.bind fun h => if h = [] then none else some h.dropLast) rest
  | .child n :: rest =>
    if rest ≠ [] ∧ rest.all (· = .empty) then .error .isADirectory
    else if maxName < n.utf8ByteSize then .error .nameTooLong
    else
      match here with
      | none => .error (if rest = [] then .permissionDenied else .notFound)
      | some h =>
        match child? (h ++ [n]) top with
        | none => if rest = [] then .ok (h ++ [n]) else .error .notFound
        | some (.file ..) => if rest = [] then .ok (h ++ [n]) else .error .notADirectory
        | some (.dir _) => placeFrom links top (some (h ++ [n])) rest
        | some (.link target) =>
          match links with
          | 0 => .error .tooManyLinks
          | k + 1 =>
            if target.isEmpty then .error .notFound
            else
              placeFrom k top (if Path.isAbsolute target then none else some h)
                (steps target ++ rest)
termination_by (links, path.length)

/-- The names in a path. -/
def names (path : String) : List String :=
  (path.toList.splitOn '/').filterMap fun s =>
    if s = [] ∨ s = ['.'] then none else some (String.ofList s)

/-- The mode of a file that is made by writing it. -/
def newMode : UInt32 := 0o644

/-- Writes a file, which keeps its mode if it exists. -/
def write (top : Tree) (path : String) (content : Bytes) : Except IoFault Tree :=
  match pathFault? path with
  | some f => .error f
  | none =>
    match placeFrom maxLinks top (if Path.isAbsolute path then none else some []) (steps path) with
    | .error e => .error e
    | .ok place =>
      match child? place top with
      | some (.file _ mode) =>
        if isWritable mode then .ok (put (.file content mode) place top)
        else .error .permissionDenied
      | _ => .ok (put (.file content newMode) place top)

end Tree

end OciCompose
