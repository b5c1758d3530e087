import OciCompose.Hex
import OciCompose.Utf8

/-
  Percent-encoding, and the encoding of form fields.
-/

namespace OciCompose.Percent

/-- A byte as `%` and two upper-case digits. -/
def escape (b : UInt8) : List Char :=
  ['%', (Hex.digit (b.toNat / 16)).toUpper, (Hex.digit b.toNat).toUpper]

/-- Escapes the characters that are not kept. -/
def encode (kept : Char → Bool) (s : List Char) : List Char :=
  s.flatMap fun c => if kept c then [c] else (String.utf8EncodeChar c).flatMap escape

/-- The bytes of a text in which escapes stand for bytes. A `%` without two digits is itself. -/
def decode : List Char → Bytes
  | [] => []
  | '%' :: a :: b :: r =>
    match Hex.value? a, Hex.value? b with
    | some x, some y => UInt8.ofNat (16 * x + y) :: decode r
    | _, _ => 0x25 :: decode (a :: b :: r)
  | c :: r => String.utf8EncodeChar c ++ decode r

/-- Printable ASCII, space left out. -/
def isGraphic (c : Char) : Bool := 0x21 ≤ c.toNat && c.toNat ≤ 0x7E

/-- A character that a path keeps. -/
def isPathChar (c : Char) : Bool :=
  isGraphic c && !"\"#<>?`\x7b\x7d".toList.contains c

/-- A character that a query keeps. -/
def isQueryChar (c : Char) : Bool := isGraphic c && !"\"#<>'".toList.contains c

/-- A character that a fragment keeps. -/
def isFragmentChar (c : Char) : Bool := isGraphic c && !"\"<>`".toList.contains c

/-- A character that a form field keeps. -/
def isFormChar (c : Char) : Bool :=
  ('0' ≤ c && c ≤ '9') || ('A' ≤ c && c ≤ 'Z') || ('a' ≤ c && c ≤ 'z') ||
    ['*', '-', '.', '_'].contains c

/-- A name or value of a form: a space becomes `+`. -/
def formField (s : String) : List Char :=
  s.toList.flatMap fun c => if c = ' ' then ['+'] else encode isFormChar [c]

end OciCompose.Percent
