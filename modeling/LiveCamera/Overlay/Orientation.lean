import LiveCamera.Bytes
import LiveCamera.Overlay.Rect

/-!
# Orientation of the overlay plane

The overlay plane is mounted rotated against the sensor. What is drawn in picture coordinates is
moved and turned around when it is published: `horizontal` reverses the pixels of each row,
`vertical` the order of the rows.
-/

namespace LiveCamera

/-- The corrections applied when a canvas is published. -/
structure Orientation where
  horizontal : Bool
  vertical : Bool
  deriving DecidableEq, Repr, Inhabited

namespace Orientation

def natural : Orientation := ⟨false, false⟩

/-- The flags of a device describe what its sensor needs; the overlay needs the opposite on each
axis. -/
def ofDevice (flip mirror : Bool) : Orientation := ⟨!mirror, !flip⟩

/-- Where a rectangle inside a picture lies on the overlay plane. -/
def place (o : Orientation) (rect : Rect) (bounds : Size) : Rect :=
  { rect with
    x := if o.horizontal then bounds.width - rect.w - rect.x else rect.x
    y := if o.vertical then bounds.height - rect.h - rect.y else rect.y }

/-- One row with its pixels reversed if the orientation asks for it. -/
def applyRow (o : Orientation) (width bpp : Nat) (row : Bytes) : Bytes :=
  if o.horizontal then (stretches bpp width row).reverse.flatten else row

/-- The corrected copy of a buffer of `height` rows with `width` pixels of `bpp` octets. Octets
behind the last row stay where they are; a buffer that is too short, or has no pixels in a row,
stays as it is. -/
def apply (o : Orientation) (pixels : Bytes) (width height bpp : Nat) : Bytes :=
  let stride := width * bpp
  if stride = 0 ∨ pixels.length < stride * height then pixels
  else
    let rows := (stretches stride height pixels).map (o.applyRow width bpp)
    (if o.vertical then rows.reverse else rows).flatten ++ pixels.drop (stride * height)

end Orientation

end LiveCamera
