import OciCompose.SortedMap
import OciCompose.Utf8

/-
  The content of a layer before it becomes an archive: files and symlinks by their paths in the
  image, in ascending order.
-/

namespace OciCompose

inductive StagedEntry where
  /-- `sourceMode` is none for content that never was a file. -/
  | file (content : Bytes) (sourceMode : Option UInt32)
  | symlink (target : String)
deriving DecidableEq

/-- The length of the content, none for a symlink. -/
def StagedEntry.size : StagedEntry → UInt64
  | file content _ => UInt64.ofNat content.length
  | symlink _ => 0

/-- `totalSize` is kept up to date with the entries. -/
structure Staging where
  entries : SortedMap StagedEntry
  totalSize : UInt64
deriving DecidableEq

namespace Staging

def empty : Staging := ⟨.empty, 0⟩

/-- The key of a path, with exactly one slash before it. -/
def key (path : String) : String :=
  "/" ++ String.ofList (path.toList.dropWhile (· == '/'))

/-- Puts an entry at a path, instead of the one there was. -/
def insert (s : Staging) (path : String) (e : StagedEntry) : Staging :=
  let k := key path
  let replaced := (s.entries.get? k).elim 0 StagedEntry.size
  ⟨s.entries.insert k e, s.totalSize + e.size - replaced⟩

def size (s : Staging) : Nat := s.entries.size

def isEmpty (s : Staging) : Bool := s.entries.isEmpty

end Staging

end OciCompose
