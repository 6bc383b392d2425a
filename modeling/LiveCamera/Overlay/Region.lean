import LiveCamera.Overlay.Color
import LiveCamera.Overlay.Orientation
import LiveCamera.Overlay.Plane

/-!
# Regions

A region is a canvas at a place of the picture. It is drawn in picture coordinates and published
with the corrections of the plane's orientation.
-/

namespace LiveCamera

/-- What a slot was allocated for. -/
inductive RegionPurpose
  /-- A canvas of the application. -/
  | plain
  /-- One strip of a drawn rectangle. -/
  | rectangle
  deriving DecidableEq, Repr, Inhabited

/-- An allocated canvas. -/
structure Region where
  id : Nat
  /-- The place in picture coordinates. -/
  rect : Rect
  /-- The place on the overlay plane. -/
  placement : Rect
  format : PixelFormat
  purpose : RegionPurpose
  orientation : Orientation
  canvas : Bytes
  deriving DecidableEq, Repr, Inhabited

namespace Region

/-- Octets of the canvas of a rectangle. -/
def canvasLength (rect : Rect) : Nat := rect.w * rect.h * canvasDepth

def blank (id : Nat) (rect placement : Rect) (format : PixelFormat) (purpose : RegionPurpose)
    (orientation : Orientation) : Region :=
  ⟨id, rect, placement, format, purpose, orientation, List.replicate (canvasLength rect) 0⟩

/-- The region with its canvas made transparent. -/
def erased (r : Region) : Region := { r with canvas := List.replicate r.canvas.length 0 }

/-- The region with every pixel of its canvas in one colour. -/
def filled (r : Region) (color : Color) : Region :=
  { r with
    canvas := (List.replicate (r.canvas.length / canvasDepth) color.pixel).flatten ++
      r.canvas.drop (r.canvas.length / canvasDepth * canvasDepth) }

def published (r : Region) : Bytes :=
  r.orientation.apply r.canvas r.rect.w r.rect.h canvasDepth

end Region

end LiveCamera
