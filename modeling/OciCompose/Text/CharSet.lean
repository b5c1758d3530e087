import OciCompose.Hex
import OciCompose.Text

/-
  Sets of characters by ranges of code points.
  Tables write ranges down in hexadecimal, `first-last` or a single code point, as words with spaces
  between.
-/

namespace OciCompose.Text

/-- The words of the lines of a table. -/
def tableWords (lines : List String) : List (List Char) :=
  lines.flatMap fun l => l.toList.splitOn ' '

/-- The number of some hexadecimal digits. -/
def hexNumber (s : List Char) : Nat := s.foldl (fun n c => 16 * n + (Hex.value? c).getD 0) 0

/-- The character of a code point in hexadecimal. -/
def codePoint (s : List Char) : Char := Char.ofNat (hexNumber s)

/-- A range of code points, first and last included. -/
structure CodeRange where
  first : Nat
  last : Nat

namespace CodeRange

def ofWord (w : List Char) : CodeRange :=
  match cut '-' w with
  | some (a, b) => ⟨hexNumber a, hexNumber b⟩
  | none => ⟨hexNumber w, hexNumber w⟩

def contains (r : CodeRange) (c : Char) : Bool := r.first ≤ c.toNat && c.toNat ≤ r.last

end CodeRange

structure CharSet where
  ranges : List CodeRange

namespace CharSet

def ofLines (lines : List String) : CharSet := ⟨(tableWords lines).map CodeRange.ofWord⟩

def contains (s : CharSet) (c : Char) : Bool := s.ranges.any (·.contains c)

end CharSet

end OciCompose.Text
