import LiveCamera.Failure
import LiveCamera.Picture.Frame

/-!
# Test pattern

A camera without a sensor: a luma gradient that moves by four levels with every frame, over neutral
chroma, at a fixed frame rate.
-/

namespace LiveCamera

/-- A camera that draws its pictures. -/
structure TestPattern where
  size : Size
  /-- Frames per second. -/
  rate : Nat
  /-- The earliest time of the next frame, in nanoseconds. -/
  due : Nat
  /-- The number of frames drawn so far. -/
  sequence : Nat
  deriving DecidableEq, Repr

namespace TestPattern

/-- A camera that is switched on at `now`. A picture needs pixels and an even height, since chroma
has half the rows; a rate of zero counts as one. -/
def start (size : Size) (rate now : Nat) : Except Failure TestPattern :=
  if size.width = 0 ∨ size.height = 0 ∨ size.height % 2 ≠ 0 then .error (.patternSize size)
  else .ok ⟨size, max rate 1, now, 0⟩

/-- The time between two frames in nanoseconds, rounded down. -/
def interval (c : TestPattern) : Nat := 1000000000 / c.rate

/-- One row of the luma plane. -/
def lumaRow (width offset : Nat) : Bytes :=
  (List.range width).map fun x ↦ UInt8.ofNat (x + offset)

/-- The picture with the given number. -/
def picture (size : Size) (sequence : Nat) : Bytes :=
  ((List.range size.height).flatMap fun y ↦ lumaRow size.width (y + sequence * 4)) ++
    List.replicate (size.pixels / 2) 128

/-- The next frame, if it is due at `now`. The one after it is due an interval later. -/
def pop (c : TestPattern) (now : Nat) : Option Frame × TestPattern :=
  if now < c.due then (none, c)
  else
    (some ⟨picture c.size c.sequence, c.size, .nv21, c.sequence⟩,
      { c with due := now + c.interval, sequence := c.sequence + 1 })

end TestPattern

end LiveCamera
