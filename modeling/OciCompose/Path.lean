/-
  Paths as texts with `/` between their components.
-/

namespace OciCompose.Path

inductive Component where
  | root
  | current
  | parent
  | name (n : List Char)
deriving DecidableEq

/-- The text of a component. -/
def Component.text : Component → List Char
  | root => ['/']
  | current => ['.']
  | parent => ['.', '.']
  | name n => n

def ofSegment (s : List Char) : Option Component :=
  if s = [] ∨ s = ['.'] then none else if s = ['.', '.'] then some .parent else some (.name s)

/-- The components of a path. Empty ones and `.` count only at the beginning, as the root and as the
    current directory. -/
def components (path : List Char) : List Component :=
  let segments := path.splitOn '/'
  let lead : List Component :=
    match segments with
    | [] :: _ :: _ => [.root]
    | ['.'] :: _ => [.current]
    | _ => []
  lead ++ segments.filterMap ofSegment

def join (segments : List (List Char)) : List Char := ['/'].intercalate segments

/-- The components of a path joined again. -/
def rejoin (path : String) : String :=
  String.ofList (join ((components path.toList).map Component.text))

def isAbsolute (path : String) : Bool := path.toList.head? == some '/'

end OciCompose.Path
