import OciCompose.Utf8

/-
  Base64 with padding.
-/

namespace OciCompose.Base64

/-- The character of six bits. -/
def symbol (n : Nat) : Char :=
  let d := n % 64
  if d < 26 then Char.ofNat (65 + d)
  else if d < 52 then Char.ofNat (71 + d)
  else if d < 62 then Char.ofNat (d - 4)
  else if d = 62 then '+' else '/'

/-- Four characters for each three bytes; `=` stands for what is missing of the last ones. -/
def encode : Bytes → List Char
  | [] => []
  | [a] =>
    let n := a.toNat * 16
    [symbol (n / 64), symbol n, '=', '=']
  | [a, b] =>
    let n := (a.toNat * 256 + b.toNat) * 4
    [symbol (n / 4096), symbol (n / 64), symbol n, '=']
  | a :: b :: c :: r =>
    let n := (a.toNat * 256 + b.toNat) * 256 + c.toNat
    symbol (n / 262144) :: symbol (n / 4096) :: symbol (n / 64) :: symbol n :: encode r

end OciCompose.Base64
