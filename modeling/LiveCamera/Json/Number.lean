import LiveCamera.Decimal.Shortest

/-!
# Numbers in JSON text

A number without fraction and exponent is an integer as long as it fits a machine word, signed or
not. Every other number is a double. It is read digit by digit into a 64-bit significand, which
digits that no longer fit are left out of, and then scaled by one power of ten; a number too large
for a double is refused. Minus zero is a double.
-/

namespace LiveCamera.Json

inductive Number
  /-- An integer between -2⁶³ and 2⁶⁴ - 1. -/
  | int (value : Int)
  /-- A double, as its bits. -/
  | double (bits : UInt64)
  deriving DecidableEq, Repr, Inhabited

namespace Number

/-! ## Reading -/

/-- The largest significand. -/
def maxWord : Nat := 18446744073709551615

def digit (c : Char) : Nat := c.toNat - 48

def powerOfTen (n : Nat) : Float := Float.ofScientific 1 false n

/-- The magnitude scaled by a power of ten. Scales below the smallest double are applied in
steps. -/
def scale : Nat → Float → Int → Option Float
  | 0, f, _ => some f
  | steps + 1, f, exponent =>
    if exponent.natAbs ≤ 308 then
      if 0 ≤ exponent then
        let scaled := f * powerOfTen exponent.toNat
        if scaled.isInf then none else some scaled
      else some (f / powerOfTen exponent.natAbs)
    else if f == 0 then some f
    else if 0 ≤ exponent then none
    else scale steps (f / powerOfTen 308) (exponent + 308)

/-- A double from its sign, significand and power of ten. -/
def ofParts (negative : Bool) (significand : Nat) (exponent : Int) : Option Number :=
  (scale 8 (UInt64.ofNat significand).toFloat exponent).map fun f ↦
    .double (if negative then -f else f).toBits

/-- A significand with more digits, as long as they fit, and the digits that were left out. -/
def extend (significand : Nat) : List Char → Nat × List Char
  | [] => (significand, [])
  | c :: rest =>
    if maxWord < significand * 10 + digit c then (significand, c :: rest)
    else extend (significand * 10 + digit c) rest

/-- The largest exponent that is written out; beyond it the number is zero or too large. -/
def maxExponent : Nat := 2147483647

/-- A number from the parts of its text: the digits in front of the point, those behind it, and the
sign and digits of the exponent. -/
def ofText (negative : Bool) (whole : List Char) (fraction : Option (List Char))
    (exponent : Option (Bool × List Char)) : Option Number :=
  let read := extend 0 whole
  match fraction, exponent, read.2 with
  | none, none, [] =>
    if negative then
      if read.1 = 0 ∨ 9223372036854775808 < read.1 then ofParts true read.1 0
      else some (.int (-read.1))
    else some (.int read.1)
  | _, _, leftOut =>
    let behind := fraction.getD []
    let more := extend read.1 behind
    let point : Int := leftOut.length - (behind.length - more.2.length : Nat)
    match exponent with
    | none => ofParts negative more.1 point
    | some (down, digits) =>
      let size := digits.foldl (fun n c ↦ n * 10 + digit c) 0
      if maxExponent < size then
        if more.1 ≠ 0 ∧ !down then none else ofParts negative 0 0
      else ofParts negative more.1 (if down then point - size else point + size)

/-! ## Writing -/

/-- How a double is written: decimal exponents between these two put the point among the digits, or
next to them. -/
structure Layout where
  least : Int
  most : Int

/-- Positional notation from a hundred-thousandth up to sixteen digits in front of the point. -/
def positional : Layout := ⟨-5, 15⟩

def digits (n : Nat) : List Char := Nat.toDigits 10 n

/-- A positive double in words: the point stands where it belongs, and a whole number keeps one zero
behind it; very large and very small numbers have one digit in front of the point and an exponent
with its sign. -/
def decimal (s : Decimal.Scaled) : List Char :=
  let ds := digits s.digits
  let point : Int := ds.length + s.exponent
  if positional.least ≤ point - 1 ∧ point - 1 ≤ positional.most then
    if point ≤ 0 then '0' :: '.' :: (List.replicate (-point).toNat '0' ++ ds)
    else if 0 ≤ s.exponent then ds ++ List.replicate s.exponent.toNat '0' ++ ['.', '0']
    else ds.take point.toNat ++ '.' :: ds.drop point.toNat
  else
    let mark := if point - 1 < 0 then ['e', '-'] else ['e', '+']
    ds.take 1 ++ (if ds.length = 1 then [] else '.' :: ds.drop 1) ++ mark ++
      digits (point - 1).natAbs

/-- The text of a double; one that is no number is written as nothing. -/
def doubleText (bits : UInt64) : List Char :=
  let exponent := ((bits >>> 52) &&& 0x7FF).toNat
  let fraction := (bits &&& 0xFFFFFFFFFFFFF).toNat
  if exponent = 0x7FF then "null".toList
  else
    let sign := if bits >>> 63 = 1 then ['-'] else []
    sign ++ (if exponent = 0 ∧ fraction = 0 then ['0', '.', '0']
      else decimal (Decimal.shortest exponent fraction))

def text : Number → List Char
  | int (.ofNat n) => digits n
  | int (.negSucc n) => '-' :: digits (n + 1)
  | double bits => doubleText bits

end Number

end LiveCamera.Json
