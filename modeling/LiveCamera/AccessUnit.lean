import LiveCamera.AnnexB
import LiveCamera.NalKind

/-!
# Access units

An encoder hands over whole access units: one picture with the parameter sets and other units in
front of it. Parameter sets come in the same access unit as the key picture they describe, so one
with more than one unit marks a point where decoding can start.
-/

namespace LiveCamera

/-- The units that an encoder completed together, each behind its start code. -/
structure AccessUnit where
  units : List Bytes
  deriving DecidableEq, Repr, Inhabited

namespace AccessUnit

def count (a : AccessUnit) : Nat := a.units.length

def isEmpty (a : AccessUnit) : Bool := a.units.isEmpty

/-- The octets of all units together. -/
def totalSize (a : AccessUnit) : Nat := (a.units.map List.length).foldr (· + ·) 0

def push (a : AccessUnit) (unit : Bytes) : AccessUnit := ⟨a.units ++ [unit]⟩

def concat (a : AccessUnit) : Bytes := a.units.flatten

@[simp] theorem count_push (a : AccessUnit) (unit : Bytes) : (a.push unit).count = a.count + 1 := by
  simp [push, count]

@[simp] theorem concat_push (a : AccessUnit) (unit : Bytes) :
    (a.push unit).concat = a.concat ++ unit := by
  simp [push, concat]

/-- An access unit is as long as its units together. -/
theorem length_concat (a : AccessUnit) : a.concat.length = a.totalSize := by
  simp [concat, totalSize, List.length_flatten, List.sum_eq_foldr]

/-- The access units of consecutive NAL units: each picture closes one. Units after the last picture
are left out. The units since the last picture stand reversed in front. -/
def groupFrom (codec : Codec) (since : List Bytes) : List NalUnit → List AccessUnit
  | [] => []
  | unit :: rest =>
    if codec.isPicture unit.payload then
      ⟨(unit.framed :: since).reverse⟩ :: groupFrom codec [] rest
    else groupFrom codec (unit.framed :: since) rest

/-- The access units of a recorded stream. -/
def group (codec : Codec) (units : List NalUnit) : List AccessUnit := groupFrom codec [] units

end AccessUnit

end LiveCamera
