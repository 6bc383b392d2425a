/-!
# Durations in words

A duration is written in the largest unit among seconds and milliseconds in which it is at least
one, with no more decimals than it needs.
-/

namespace LiveCamera.Text

/-- The decimals of a thousandth count, without zeros at the end. -/
def decimals (thousandths : Nat) : List Char :=
  let digit (n : Nat) : Char := Char.ofNat (48 + n % 10)
  ([digit (thousandths / 100), digit (thousandths / 10), digit thousandths].reverse.dropWhile
    (· == '0')).reverse

/-- A duration given in milliseconds, as in `1.5s`, `10ms` or `0ns`. -/
def duration (milliseconds : Nat) : String :=
  if milliseconds = 0 then "0ns"
  else if milliseconds < 1000 then toString milliseconds ++ "ms"
  else
    let fraction := decimals (milliseconds % 1000)
    let seconds := toString (milliseconds / 1000)
    if fraction.isEmpty then seconds ++ "s" else seconds ++ "." ++ String.ofList fraction ++ "s"

end LiveCamera.Text
