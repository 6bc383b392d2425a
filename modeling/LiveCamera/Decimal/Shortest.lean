/-!
# The shortest decimal of a binary fraction

A double stands for every real number that rounds to it. Among the decimals in that interval the one
with the fewest digits is chosen, and among those the one nearest to the double itself. Everything
is computed in exact integer arithmetic: decimals with `d` digits form a grid, and only the two
neighbours of the double on that grid can be nearest.
-/

namespace LiveCamera.Decimal

/-- A decimal number `digits * 10 ^ exponent`. -/
structure Scaled where
  digits : Nat
  exponent : Int
  deriving DecidableEq, Repr, Inhabited

/-- The real numbers that round to `value / unit`: those between `low / unit` and `high / unit`, the
ends included if `closed` is set. -/
structure Interval where
  value : Nat
  low : Nat
  high : Nat
  unit : Nat
  closed : Bool
  deriving DecidableEq, Repr, Inhabited

namespace Interval

/-- The interval of the double with the given biased exponent and fraction field; neither zero nor
infinite. Below a power of two the doubles lie closer together. -/
def ofFields (exponent fraction : Nat) : Interval :=
  let mantissa := if exponent = 0 then fraction else fraction + 4503599627370496
  let power : Int := (max exponent 1 : Nat) - 1075
  let up := Nat.pow 2 power.toNat
  let value := 4 * mantissa * up
  let narrow := fraction == 0 && 1 < exponent
  { value
    low := value - (if narrow then up else 2 * up)
    high := value + 2 * up
    unit := 4 * Nat.pow 2 (-power).toNat
    closed := mantissa % 2 == 0 }

/-- Whether `n * 10 ^ k` lies in the interval. -/
def contains (i : Interval) (n : Nat) (k : Int) : Bool :=
  let scale := Nat.pow 10 (-k).toNat
  let point := n * Nat.pow 10 k.toNat * i.unit
  if i.closed then i.low * scale ≤ point && point ≤ i.high * scale
  else i.low * scale < point && point < i.high * scale

/-- The largest `n` for which `n * 10 ^ k` does not exceed the value. -/
def floorOn (i : Interval) (k : Int) : Nat :=
  i.value * Nat.pow 10 (-k).toNat / (i.unit * Nat.pow 10 k.toNat)

/-- Whether `n * 10 ^ k` is nearer to the value than the next point of the grid. A tie goes to the
even digit. -/
def prefersFloor (i : Interval) (n : Nat) (k : Int) : Bool :=
  let scale := Nat.pow 10 (-k).toNat
  let twice := 2 * i.value * scale
  let middle := (2 * n + 1) * Nat.pow 10 k.toNat * i.unit
  twice < middle || (twice == middle && n % 2 == 0)

/-- The point of the grid `10 ^ k` in the interval that is nearest to the value. -/
def onGrid (i : Interval) (k : Int) : Option Scaled :=
  let n := i.floorOn k
  match i.contains n k, i.contains (n + 1) k with
  | true, true => some ⟨if i.prefersFloor n k then n else n + 1, k⟩
  | true, false => some ⟨n, k⟩
  | false, true => some ⟨n + 1, k⟩
  | false, false => none

/-- The number of digits in front of the point, or minus the number of zeros behind it, found by
trying the values from `k` downwards. -/
def magnitudeFrom (i : Interval) : Nat → Int → Int
  | 0, k => k
  | steps + 1, k => if i.floorOn (k - 1) = 0 then magnitudeFrom i steps (k - 1) else k

/-- The exponent `e` with `10 ^ (e - 1) ≤ value < 10 ^ e`. -/
def magnitude (i : Interval) : Int := i.magnitudeFrom 640 310

/-- The point on the first grid that has one, with `digits`, `digits + 1`, … digits. -/
def search (i : Interval) (magnitude : Int) : Nat → Nat → Scaled
  | 0, _ => ⟨0, 0⟩
  | steps + 1, digits =>
    match i.onGrid (magnitude - digits) with
    | some found => found
    | none => search i magnitude steps (digits + 1)

end Interval

/-- A number without the zeros at the end of its digits, at most `steps` of them. -/
def Scaled.stripped : Nat → Scaled → Scaled
  | 0, s => s
  | steps + 1, s =>
    if s.digits ≠ 0 ∧ s.digits % 10 = 0 then stripped steps ⟨s.digits / 10, s.exponent + 1⟩ else s

/-- The shortest decimal of the double with the given fields. Seventeen digits always suffice. -/
def shortest (exponent fraction : Nat) : Scaled :=
  if exponent = 0 ∧ fraction = 0 then ⟨0, 0⟩
  else
    let interval := Interval.ofFields exponent fraction
    (interval.search interval.magnitude 17 1).stripped 20

end LiveCamera.Decimal
