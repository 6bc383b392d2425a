import LiveCamera.Overlay.Plane

/-!
# Overlay hardware

The plane behind an interface whose calls may fail. Which calls fail is data: each kind of call has
a list of verdicts, one for each coming call, and works once the list has run out. A call that fails
does not reach the plane.
-/

namespace LiveCamera

/-- What becomes of the coming calls of one kind: nothing lets the call through, a cause makes it
fail. -/
abbrev Verdicts := List (Option Failure)

/-- A plane whose calls may fail. -/
structure Hardware where
  plane : Plane
  attaching : Verdicts
  committing : Verdicts
  detaching : Verdicts
  deriving DecidableEq, Repr, Inhabited

namespace Hardware

/-- An unused plane on which every call works. -/
def healthy : Hardware := ⟨.empty, [], [], []⟩

/-- The plane put to work: its new contents, or the plane as it was together with a failure. -/
def settle (h : Hardware) : Except Failure Plane → Except Failure Unit × Hardware
  | .ok plane => (.ok (), { h with plane })
  | .error cause => (.error cause, h)

def attach (h : Hardware) (slot : Nat) (placement : Rect) (format : PixelFormat) :
    Except Failure Unit × Hardware :=
  let after := { h with attaching := h.attaching.tail }
  match h.attaching with
  | some cause :: _ => (.error cause, after)
  | _ => after.settle (h.plane.attach slot placement format)

def commit (h : Hardware) (slot : Nat) (pixels : Bytes) : Except Failure Unit × Hardware :=
  let after := { h with committing := h.committing.tail }
  match h.committing with
  | some cause :: _ => (.error cause, after)
  | _ => after.settle (h.plane.commit slot pixels)

def detach (h : Hardware) (slot : Nat) : Except Failure Unit × Hardware :=
  let after := { h with detaching := h.detaching.tail }
  match h.detaching with
  | some cause :: _ => (.error cause, after)
  | _ => after.settle (.ok (h.plane.detach slot))

end Hardware

end LiveCamera
