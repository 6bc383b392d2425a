import LiveCamera.Picture.Size

/-!
# Rectangles on a picture

Positions and sizes are counted in pixels from the upper left corner. Coordinates that come from
outside stay below 2³², and so do the right and lower edges computed from them: a sum that would
pass the largest coordinate stops there.
-/

namespace LiveCamera

/-- An axis-aligned rectangle. -/
structure Rect where
  x : Nat
  y : Nat
  w : Nat
  h : Nat
  deriving DecidableEq, Repr, Inhabited

namespace Rect

def maxCoordinate : Nat := 4294967295

/-- One past the last column, at most the largest coordinate. -/
def right (r : Rect) : Nat := min (r.x + r.w) maxCoordinate

/-- One past the last row, at most the largest coordinate. -/
def bottom (r : Rect) : Nat := min (r.y + r.h) maxCoordinate

def area (r : Rect) : Nat := r.w * r.h

def isEmpty (r : Rect) : Bool := r.w == 0 || r.h == 0

/-- Whether the rectangle lies inside a picture; a sum past the largest coordinate never does. -/
def fitsIn (r : Rect) (bounds : Size) : Bool :=
  decide (r.x + r.w ≤ min bounds.width maxCoordinate) &&
    decide (r.y + r.h ≤ min bounds.height maxCoordinate)

def contains (r : Rect) (px py : Nat) : Bool :=
  decide (r.x ≤ px) && decide (px < r.right) && decide (r.y ≤ py) && decide (py < r.bottom)

/-- The part of the interval from `start`, `length` long, that lies between zero and `limit`, as its
start and length. A negative length counts as zero. -/
def clampAxis (start length : Int) (limit : Nat) : Nat × Nat :=
  let first := max 0 (min start limit)
  let last := max 0 (min (start + max length 0) limit)
  (first.toNat, (last - first).toNat)

/-- The part of a rectangle with signed coordinates that lies inside a picture. -/
def clamp (x y w h : Int) (bounds : Size) : Rect :=
  let horizontal := clampAxis x w bounds.width
  let vertical := clampAxis y h bounds.height
  ⟨horizontal.1, vertical.1, horizontal.2, vertical.2⟩

def text (r : Rect) : String :=
  "Rect \x7b x: " ++ toString r.x ++ ", y: " ++ toString r.y ++ ", w: " ++ toString r.w ++
    ", h: " ++ toString r.h ++ " \x7d"

end Rect

end LiveCamera
