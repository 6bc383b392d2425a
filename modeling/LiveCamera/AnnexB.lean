import LiveCamera.Bytes

/-!
# Annex B byte streams

An elementary stream is a sequence of NAL units, each behind a start code `00 00 01`. A zero octet
in front of a start code belongs to the code, which is then four octets long. Octets before the
first code are no unit, and a buffer without any code is one unit.
-/

namespace LiveCamera

/-- One NAL unit found in a buffer. -/
structure NalUnit where
  /-- Where the unit begins in the buffer, its start code included. -/
  start : Nat
  /-- Three or four, or zero for a buffer without start codes. -/
  codeLength : Nat
  payload : Bytes
  deriving DecidableEq, Repr, Inhabited

namespace NalUnit

/-- The unit behind its start code. -/
def framed (u : NalUnit) : Bytes :=
  (if u.codeLength = 4 then [0, 0, 0, 1]
    else if u.codeLength = 3 then [0, 0, 1]
    else []) ++ u.payload

end NalUnit

namespace AnnexB

/-- Cuts a buffer at every `00 00 01`, from the left and without overlap. The octets read since the
last cut stand reversed in front. -/
def cut (read : Bytes) : Bytes → List Bytes
  | a :: b :: c :: rest =>
    if a = 0 ∧ b = 0 ∧ c = 1 then read.reverse :: cut [] rest else cut (a :: read) (b :: c :: rest)
  | rest => [read.reverse ++ rest]

/-- The parts of a buffer between start codes; the first one precedes every code. -/
def parts (data : Bytes) : List Bytes := cut [] data

/-- Whether a part ends in a zero octet, which then belongs to the code that follows it. -/
def endsInZero (part : Bytes) : Bool := part.getLast? == some 0

/-- The units of consecutive parts. The first part begins behind the `00 00 01` at `position`, and
the part before that code is `before`. -/
def unitsFrom (position : Nat) (before : Bytes) : List Bytes → List NalUnit
  | [] => []
  | part :: rest =>
    let long := endsInZero before
    let payload := if endsInZero part && !rest.isEmpty then part.dropLast else part
    ⟨if long then position - 1 else position, if long then 4 else 3, payload⟩ ::
      unitsFrom (position + 3 + part.length) part rest

/-- The NAL units of a buffer, in order. A unit without payload is left out. -/
def split (data : Bytes) : List NalUnit :=
  match parts data with
  | before :: part :: rest =>
    (unitsFrom before.length before (part :: rest)).filter (!·.payload.isEmpty)
  | _ => if data.isEmpty then [] else [⟨0, 0, data⟩]

@[simp] theorem split_nil : split [] = [] := rfl

end AnnexB

end LiveCamera
