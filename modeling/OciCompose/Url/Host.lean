import OciCompose.Error
import OciCompose.Url.Domain
import OciCompose.Url.Percent

/-
  Hosts of URLs: domain names in ASCII, IPv4 addresses in all their spellings, and IPv6 addresses.
-/

namespace OciCompose

inductive Host where
  | domain (name : List Char)
  | ipv4 (address : Nat)
  | ipv6 (groups : List Nat)
deriving DecidableEq

namespace Host

/-! ## IPv4 -/

/-- The number of some digits to a base. -/
def number? (base : Nat) (digits : List Char) : Option Nat :=
  digits.foldlM (fun n c =>
    match Hex.value? c with
    | some d => if d < base then some (base * n + d) else none
    | none => none) 0

/-- A part of an IPv4 address: hexadecimal after `0x`, octal after `0`, else decimal. -/
def ipv4Part? : List Char → Option Nat
  | [] => none
  | '0' :: 'x' :: ds | '0' :: 'X' :: ds => number? 16 ds
  | '0' :: ds => number? 8 ds
  | ds => number? 10 ds

/-- The parts of a name; a dot at the end opens no part. -/
def parts (name : List Char) : List (List Char) :=
  let ps := name.splitOn '.'
  if ps.getLast? = some [] ∧ 1 < ps.length then ps.dropLast else ps

/-- A name whose last part is a number has to be an IPv4 address. -/
def endsInNumber (name : List Char) : Bool :=
  let last := (parts name).getLastD []
  (last ≠ [] && last.all fun c => '0' ≤ c && c ≤ '9') || (ipv4Part? last).isSome

/-- The address of some numbers in a number of bytes. The last number fills all bytes that remain. -/
def ipv4OfParts? : Nat → List Nat → Option Nat
  | _, [] => none
  | 0, _ :: _ => none
  | bytes + 1, [n] => if n < Nat.pow 256 (bytes + 1) then some n else none
  | bytes + 1, n :: ns =>
    if n < 256 then (ipv4OfParts? bytes ns).map (n * Nat.pow 256 bytes + ·) else none

def ipv4? (name : List Char) : Option Nat := ((parts name).mapM ipv4Part?).bind (ipv4OfParts? 4)

def ipv4Text (n : Nat) : List Char :=
  ['.'].intercalate ([24, 16, 8, 0].map fun k => Nat.toDigits 10 (n / Nat.pow 2 k % 256))

/-! ## IPv6 -/

/-- A group of one to four hexadecimal digits. -/
def group? (s : List Char) : Option Nat :=
  if s ≠ [] ∧ s.length ≤ 4 then number? 16 s else none

/-- Four decimal bytes without leading zeros, as two groups. -/
def dotted? (s : List Char) : Option (List Nat) :=
  let byte? (t : List Char) : Option Nat :=
    match t with
    | [] | '0' :: _ :: _ => none
    | t => (number? 10 t).filter (· < 256)
  match (s.splitOn '.').mapM byte? with
  | some [a, b, c, d] => some [256 * a + b, 256 * c + d]
  | _ => none

/-- Groups between colons. A dotted address may stand for the last two. -/
def groups? : List (List Char) → Option (List Nat)
  | [] => some []
  | [s] => if s.contains '.' then dotted? s else (group? s).map ([·])
  | s :: ss => do
    let g ← group? s
    let gs ← groups? ss
    some (g :: gs)

/-- Text before and after the first `::`. -/
def cutDouble : List Char → Option (List Char × List Char)
  | [] => none
  | ':' :: ':' :: r => some ([], r)
  | c :: r => (cutDouble r).map fun (a, b) => (c :: a, b)

/-- Groups of a text, none of which is empty. -/
def groupsOf? (s : List Char) : Option (List Nat) :=
  if s = [] then some [] else groups? (s.splitOn ':')

/-- Eight groups; `::` stands for one or more zeros. -/
def ipv6? (s : List Char) : Option (List Nat) :=
  match cutDouble s with
  | none => (groupsOf? s).filter (·.length == 8)
  | some (front, back) => do
    let a ← if front.contains '.' then none else groupsOf? front
    let b ← groupsOf? back
    let known := a.length + b.length
    if known ≤ 7 then some (a ++ List.replicate (8 - known) 0 ++ b) else none

def zeros (groups : List Nat) : Nat := (groups.takeWhile (· == 0)).length

/-- The first longest run of two or more zeros: where it starts and how long it is. -/
def longestZeros : Nat → List Nat → Option (Nat × Nat)
  | _, [] => none
  | i, g :: gs =>
    let here := zeros (g :: gs)
    match longestZeros (i + 1) gs with
    | some (j, n) => if n ≤ here then some (i, here) else some (j, n)
    | none => if 2 ≤ here then some (i, here) else none

def groupsText (groups : List Nat) : List Char := [':'].intercalate (groups.map (Nat.toDigits 16))

def ipv6Text (groups : List Nat) : List Char :=
  '[' :: (match longestZeros 0 groups with
    | some (i, n) =>
      groupsText (groups.take i) ++ [':', ':'] ++ groupsText (groups.drop (i + n))
    | none => groupsText groups) ++ [']']

/-! ## Reading -/

/-- Reads a host. -/
def parse (s : List Char) : Except UrlFault Host :=
  match s with
  | '[' :: rest =>
    if rest.getLast? = some ']' then
      match ipv6? rest.dropLast with
      | some gs => .ok (.ipv6 gs)
      | none => .error .badIpv6
    else .error .badIpv6
  | _ =>
    match Utf8.decode? (Percent.decode s) with
    | none => .error .badDomain
    | some decoded =>
      match Domain.ascii? decoded.toList with
      | none => .error .badDomain
      | some [] => .error .emptyHost
      | some name =>
        if endsInNumber name then
          match ipv4? name with
          | some n => .ok (.ipv4 n)
          | none => .error .badIpv4
        else .ok (.domain name)

def text : Host → List Char
  | domain n => n
  | ipv4 n => ipv4Text n
  | ipv6 gs => ipv6Text gs

/-- A character of an authority. A host may have others, but then it cannot be asked. -/
def isAuthorityChar (c : Char) : Bool :=
  c.isAlphanum || "!$&'()*+,-.:;=[]_~".toList.contains c

end Host

end OciCompose
