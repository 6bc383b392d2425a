import LiveCamera.AccessUnit
import LiveCamera.Failure

/-!
# Replayed recordings

A recording stands in for an encoder: every captured frame that is pushed releases the next recorded
access unit, and after the last one the first one follows again.
-/

namespace LiveCamera

/-- A recorded stream played in a loop. -/
structure Replay where
  /-- The recorded access units; there is at least one. -/
  recorded : List AccessUnit
  recorded_ne_nil : recorded ≠ []
  /-- The place of the access unit that the next push releases. -/
  next : Nat
  /-- What was released and not yet taken, oldest first. -/
  ready : List AccessUnit

namespace Replay

/-- Reads a recording. It must hold a picture, and one that needs no earlier picture. -/
def ofStream (codec : Codec) (stream : Bytes) : Except Failure Replay :=
  let units := AnnexB.split stream
  let recorded := AccessUnit.group codec units
  if h : recorded = [] then .error (.noPictures codec)
  else if units.any (fun unit ↦ codec.isKeyPicture unit.payload) then .ok ⟨recorded, h, 0, []⟩
  else .error (.noKeyframe codec)

def length (r : Replay) : Nat := r.recorded.length

/-- Releases the next access unit. -/
def push (r : Replay) : Replay :=
  { r with
    ready := r.ready ++ (r.recorded[r.next]?).toList
    next := (r.next + 1) % r.length }

/-- Takes the oldest released access unit, if there is one. -/
def pop (r : Replay) : Option AccessUnit × Replay :=
  match r.ready with
  | [] => (none, r)
  | first :: rest => (some first, { r with ready := rest })

end Replay

end LiveCamera
