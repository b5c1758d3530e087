import OciCompose.Json.Value
import OciCompose.Hex
import OciCompose.Utf8

/-
  Reading JSON.
  The syntax is read first, into a `Raw` tree whose leaves say whether they have a meaning: a string
  may be no text and a number too large. What is never looked at may stay without meaning.
-/

namespace OciCompose.Json

/-- JSON syntax. A string or key is `none` if it is no text, a number if it is out of range. -/
inductive Raw where
  | null
  | bool (b : Bool)
  | number (n : Option Number)
  | string (s : Option String)
  | array (items : List Raw)
  | object (members : List (Option String × Raw))

/-- One character of the text, or an ill-formed stretch of its bytes. -/
abbrev Cell := Option Char

/-! ## Numbers -/

/-- The spelling of a number. `fraction` and `exponent` are `none` if there is no point or `e`. -/
structure Spelling where
  negative : Bool
  whole : List Nat
  fraction : Option (List Nat)
  exponent : Option (Bool × List Nat)

/-- Digits as far as they fit 64 bits, and how many were left over. -/
def significand : Nat → List Nat → Nat × Nat
  | n, [] => (n, 0)
  | n, d :: ds => if 10 * n + d < Nat.pow 2 64 then significand (10 * n + d) ds else (n, ds.length + 1)

def powerOfTen (e : Nat) : Float := Float.ofScientific 1 false e

/-- Scales by a power of ten in steps of at most 308; `none` if the result is too large. -/
def scaled : Nat → Float → Int → Option Float
  | 0, f, _ => some f
  | fuel + 1, f, e =>
    if e.natAbs ≤ 308 then
      if 0 ≤ e then
        let r := f * powerOfTen e.natAbs
        if r.isInf then none else some r
      else some (f / powerOfTen e.natAbs)
    else if f == 0 then some f
    else if 0 ≤ e then none
    else scaled fuel (f / powerOfTen 308) (e + 308)

/-- A significand with a decimal exponent, as a double. -/
def doubleOf (negative : Bool) (n : Nat) (e : Int) : Option Number :=
  (scaled 4 (Float.ofNat n) e).map fun f => .double (if negative then -f else f).toBits

/-- Exponents past 32 bits are too large or mean zero. -/
def exponentLimit : Nat := 2147483647

/-- The number of some digits, as far as it matters: once past the limit it stays there. -/
def exponentOf (ds : List Nat) : Nat :=
  ds.foldl (fun a d => if exponentLimit < a then a else 10 * a + d) 0

def saturate (e : Int) : Int :=
  if e < -2147483648 then -2147483648 else if 2147483647 < e then 2147483647 else e

/-- The number that is spelled. Spellings with a point or an exponent, and integers of more than 64
    bits, are doubles; so is minus zero. -/
def Spelling.number? (s : Spelling) : Option Number :=
  let (n, excess) := significand 0 s.whole
  match s.fraction, s.exponent with
  | none, none =>
    if 0 < excess then doubleOf s.negative n excess
    else if !s.negative then some (.integer n)
    else if n = 0 ∨ Nat.pow 2 63 < n then some (.double (-(Float.ofNat n)).toBits)
    else some (.integer (-n))
  | fraction, exponent =>
    let places := fraction.getD []
    let (m, left) := significand n places
    let start : Int := Int.ofNat excess - Int.ofNat (places.length - left)
    match exponent with
    | none => doubleOf s.negative m start
    | some (negativeExponent, ds) =>
      let e := exponentOf ds
      if exponentLimit < e then
        if m ≠ 0 ∧ !negativeExponent then none else doubleOf s.negative 0 0
      else doubleOf s.negative m (saturate (if negativeExponent then start - e else start + e))

/-- The digits at the beginning, and the rest. -/
def digits : List Cell → List Nat × List Cell
  | some c :: cs =>
    if '0' ≤ c ∧ c ≤ '9' then
      let (ds, rest) := digits cs
      ((c.toNat - 48) :: ds, rest)
    else ([], some c :: cs)
  | cs => ([], cs)

/-- The digits after a point, if there is one. -/
def readFraction : List Cell → Option (Option (List Nat) × List Cell)
  | some '.' :: cs =>
    match digits cs with
    | ([], _) => none
    | (ds, rest) => some (some ds, rest)
  | cs => some (none, cs)

def readExponentDigits (negative : Bool) (cs : List Cell) :
    Option (Option (Bool × List Nat) × List Cell) :=
  match digits cs with
  | ([], _) => none
  | (ds, rest) => some (some (negative, ds), rest)

def isExponentMark (c : Char) : Bool := c == 'e' || c == 'E'

/-- The sign and the digits after `e`, if there is one. -/
def readExponent : List Cell → Option (Option (Bool × List Nat) × List Cell)
  | some c :: cs =>
    if isExponentMark c then
      match cs with
      | some '+' :: cs => readExponentDigits false cs
      | some '-' :: cs => readExponentDigits true cs
      | cs => readExponentDigits false cs
    else some (none, some c :: cs)
  | cs => some (none, cs)

/-- A number after its sign. A zero at the beginning stands alone. -/
def readNumber (negative : Bool) (cs : List Cell) : Option (Raw × List Cell) :=
  match digits cs with
  | ([], _) => none
  | (whole, rest) =>
    if whole.head? = some 0 ∧ 1 < whole.length then none
    else do
      let (fraction, rest) ← readFraction rest
      let (exponent, rest) ← readExponent rest
      some (.number (Spelling.number? ⟨negative, whole, fraction, exponent⟩), rest)

/-! ## Strings -/

/-- The value of four hexadecimal digits. -/
def hex4 : Cell → Cell → Cell → Cell → Option Nat
  | some a, some b, some c, some d => do
    let a ← Hex.value? a
    let b ← Hex.value? b
    let c ← Hex.value? c
    let d ← Hex.value? d
    some (((a * 16 + b) * 16 + c) * 16 + d)
  | _, _, _, _ => none

/-- What a character after a backslash stands for. -/
def unescaped (c : Char) : Option Char :=
  if c = '"' then some '"'
  else if c = '\\' then some '\\'
  else if c = '/' then some '/'
  else if c = 'b' then some '\x08'
  else if c = 'f' then some '\x0c'
  else if c = 'n' then some '\n'
  else if c = 'r' then some '\r'
  else if c = 't' then some '\t'
  else none

def isHighSurrogate (n : Nat) : Bool := 0xD800 ≤ n && n ≤ 0xDBFF

def isLowSurrogate (n : Nat) : Bool := 0xDC00 ≤ n && n ≤ 0xDFFF

/-- The low surrogate that an escape at the beginning spells. -/
def lowSurrogate? : List Cell → Option Nat
  | some '\\' :: some 'u' :: a :: b :: c :: d :: _ => (hex4 a b c d).filter isLowSurrogate
  | _ => none

/-- The characters of a string up to its closing quote, with `none` for what is no character; `skip`
    cells were taken by an escape. -/
def stringCells : Nat → List Cell → Option (List Cell × List Cell)
  | _, [] => none
  | skip + 1, _ :: cs => stringCells skip cs
  | 0, c :: cs =>
    match c with
    | none => (stringCells 0 cs).map fun (s, r) => (none :: s, r)
    | some c =>
      if c = '"' then some ([], cs)
      else if c.toNat < 0x20 then none
      else if c ≠ '\\' then (stringCells 0 cs).map fun (s, r) => (some c :: s, r)
      else
        match cs.head? with
        | some (some 'u') =>
          match hex4 (cs.getD 1 none) (cs.getD 2 none) (cs.getD 3 none) (cs.getD 4 none) with
          | none => none
          | some n =>
            if isHighSurrogate n then
              match lowSurrogate? (cs.drop 5) with
              | some l =>
                (stringCells 11 cs).map fun (s, r) =>
                  (some (Char.ofNat (0x10000 + (n - 0xD800) * 0x400 + (l - 0xDC00))) :: s, r)
              | none => (stringCells 5 cs).map fun (s, r) => (none :: s, r)
            else if isLowSurrogate n then (stringCells 5 cs).map fun (s, r) => (none :: s, r)
            else (stringCells 5 cs).map fun (s, r) => (some (Char.ofNat n) :: s, r)
        | some (some e) =>
          match unescaped e with
          | some x => (stringCells 1 cs).map fun (s, r) => (some x :: s, r)
          | none => none
        | _ => none

/-- A string after its opening quote. -/
def readString (cs : List Cell) : Option (Option String × List Cell) :=
  (stringCells 0 cs).map fun (s, r) => ((s.mapM id).map String.ofList, r)

/-! ## Values -/

def isBlank (c : Cell) : Bool :=
  c == some ' ' || c == some '\n' || c == some '\t' || c == some '\r'

def skipBlanks (cs : List Cell) : List Cell := cs.dropWhile isBlank

mutual

/-- A value, after blanks. -/
def readValue : Nat → List Cell → Option (Raw × List Cell)
  | 0, _ => none
  | fuel + 1, cs =>
    match skipBlanks cs with
    | some '"' :: cs => (readString cs).map fun (s, r) => (.string s, r)
    | some '[' :: cs =>
      match skipBlanks cs with
      | some ']' :: rest => some (.array [], rest)
      | _ => (readItems fuel cs).map fun (vs, r) => (.array vs, r)
    | some '\x7b' :: cs =>
      match skipBlanks cs with
      | some '\x7d' :: rest => some (.object [], rest)
      | _ => (readMembers fuel cs).map fun (ms, r) => (.object ms, r)
    | some 'n' :: some 'u' :: some 'l' :: some 'l' :: rest => some (.null, rest)
    | some 't' :: some 'r' :: some 'u' :: some 'e' :: rest => some (.bool true, rest)
    | some 'f' :: some 'a' :: some 'l' :: some 's' :: some 'e' :: rest => some (.bool false, rest)
    | some '-' :: cs => readNumber true cs
    | cs => readNumber false cs

/-- One or more items and the end of the array. -/
def readItems : Nat → List Cell → Option (List Raw × List Cell)
  | 0, _ => none
  | fuel + 1, cs =>
    match readValue fuel cs with
    | none => none
    | some (v, rest) =>
      match skipBlanks rest with
      | some ',' :: rest => (readItems fuel rest).map fun (vs, r) => (v :: vs, r)
      | some ']' :: rest => some ([v], rest)
      | _ => none

/-- One or more members and the end of the object. -/
def readMembers : Nat → List Cell → Option (List (Option String × Raw) × List Cell)
  | 0, _ => none
  | fuel + 1, cs =>
    match skipBlanks cs with
    | some '"' :: cs =>
      match readString cs with
      | none => none
      | some (k, rest) =>
        match skipBlanks rest with
        | some ':' :: rest =>
          match readValue fuel rest with
          | none => none
          | some (v, rest) =>
            match skipBlanks rest with
            | some ',' :: rest => (readMembers fuel rest).map fun (ms, r) => ((k, v) :: ms, r)
            | some '\x7d' :: rest => some ([(k, v)], rest)
            | _ => none
        | _ => none
    | _ => none

end

/-- A text that is one value and blanks. A value of `n` cells nests no deeper than `2 * n` calls. -/
def Raw.ofCells? (cs : List Cell) : Option Raw :=
  match readValue (2 * cs.length + 2) cs with
  | some (v, rest) => if skipBlanks rest = [] then some v else none
  | none => none

def Raw.ofText? (s : String) : Option Raw := Raw.ofCells? (s.toList.map some)

def Raw.ofBytes? (bs : Bytes) : Option Raw := Raw.ofCells? (Utf8.parts none bs)

end OciCompose.Json
