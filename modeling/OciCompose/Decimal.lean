/-
  Decimal digits of binary floating point numbers: the fewest digits that read back as the number,
  and of those the ones nearest to it. All in exact arithmetic of natural numbers.
-/

namespace OciCompose.Decimal

/-- A finite positive number as `significand * 2 ^ power`, with whether the next smaller number is
    only half as far as the next greater one. -/
structure Binary where
  significand : Nat
  power : Int
  narrowBelow : Bool

/-- The magnitude behind the bits of a double, which has to be finite. -/
def Binary.ofBits (bits : UInt64) : Binary :=
  let n := bits.toNat
  let fraction := n % Nat.pow 2 52
  let exponent : Nat := n / Nat.pow 2 52 % 2048
  if exponent = 0 then ⟨fraction, -1074, false⟩
  else ⟨fraction + Nat.pow 2 52, Int.ofNat exponent - 1075, fraction == 0 && exponent > 1⟩

/-- The interval of what reads back as a number, in units of `1 / unit`. -/
structure Interval where
  value : Nat
  low : Nat
  high : Nat
  closed : Bool
  unit : Nat

def Binary.interval (b : Binary) : Interval :=
  let p := b.power - 2
  let scale := Nat.pow 2 p.toNat
  { value := 4 * b.significand * scale
    low := (4 * b.significand - if b.narrowBelow then 1 else 2) * scale
    high := (4 * b.significand + 2) * scale
    closed := b.significand % 2 == 0
    unit := Nat.pow 2 (-p).toNat }

/-- How many digits `n` has. -/
def digitCount (n : Nat) : Nat := (Nat.toDigits 10 n).length

/-- The least `j` up to `fuel` for which `v * 10 ^ j` reaches `u`. -/
def raise (u : Nat) : Nat → Nat → Nat
  | 0, _ => 0
  | fuel + 1, v => if u ≤ v then 0 else raise u fuel (10 * v) + 1

/-- The power of ten of the first digit of `v / u`. A double is no smaller than ten to -324. -/
def firstPower (v u : Nat) : Int :=
  if u ≤ v then (digitCount (v / u) : Int) - 1 else -(raise u 400 v : Int)

/-- `digits * 10 ^ power`. -/
structure Scientific where
  digits : Nat
  power : Int

/-- The nearer neighbour of the number on the grid of multiples of `10 ^ power`, of two equally near
    ones the even one, if it reads back. -/
def Interval.onGrid? (i : Interval) (power : Int) : Option Scientific :=
  let up := Nat.pow 10 (-power).toNat
  let step := i.unit * Nat.pow 10 power.toNat
  let value := i.value * up
  let readsBack (d : Nat) : Bool :=
    let x := d * step
    if i.closed then i.low * up ≤ x && x ≤ i.high * up else i.low * up < x && x < i.high * up
  let d := value / step
  let below := readsBack d && d != 0
  let above := readsBack (d + 1)
  let twice := 2 * (value - d * step)
  if below && (!above || twice < step || (twice == step && d % 2 == 0)) then some ⟨d, power⟩
  else if above then some ⟨d + 1, power⟩
  else none

/-- The first grid with a hit, from the coarsest on. -/
def Interval.shortest (i : Interval) (first : Int) : Scientific :=
  match (List.range 17).findSome? fun (n : Nat) => i.onGrid? (first - (n : Int)) with
  | some s => s
  | none => 
    ⟨i.value * Nat.pow 10 (17 - first).toNat / (i.unit * Nat.pow 10 (first - 17).toNat), first - 17⟩

/-- Moves zeros at the end into the power. -/
def Scientific.strip (s : Scientific) : Scientific :=
  let ds := (Nat.toDigits 10 s.digits).reverse
  let zeros := (ds.takeWhile (· == '0')).length
  ⟨s.digits / Nat.pow 10 zeros, s.power + zeros⟩

/-- The shortest digits of a positive number. -/
def Binary.shortest (b : Binary) : Scientific :=
  let i := b.interval
  (i.shortest (firstPower i.value i.unit)).strip

/-- Where the text of a number changes between positional and exponent notation. -/
structure Layout where
  leastPositional : Int
  greatestPositional : Int

/-- The text of digits: positional with at least one digit after the point while the power of the
    first digit is in range, else with one digit before the point and a signed exponent. -/
def Scientific.text (layout : Layout) (s : Scientific) : List Char :=
  let ds := Nat.toDigits 10 s.digits
  let first := s.power + ds.length - 1
  if layout.leastPositional ≤ first ∧ first ≤ layout.greatestPositional then
    if 0 ≤ s.power then ds ++ List.replicate s.power.toNat '0' ++ ['.', '0']
    else if 0 ≤ first then
      ds.take (first.toNat + 1) ++ '.' :: ds.drop (first.toNat + 1)
    else '0' :: '.' :: List.replicate (-first - 1).toNat '0' ++ ds
  else
    let mantissa := match ds with
      | d :: e :: es => d :: '.' :: e :: es
      | ds => ds
    mantissa ++ 'e' :: (if first < 0 then '-' else '+') :: Nat.toDigits 10 first.natAbs

end OciCompose.Decimal
