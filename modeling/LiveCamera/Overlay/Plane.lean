import LiveCamera.Bytes
import LiveCamera.Failure
import LiveCamera.Overlay.Rect

/-!
# The overlay plane

The plane holds slots, each attached at a place and showing the canvas committed last. Rendering
paints the slots onto a transparent picture in the order of their numbers, so a later slot covers an
earlier one.
-/

namespace LiveCamera

/-- Octets per pixel of a canvas. -/
def canvasDepth : Nat := 4

/-- A slot in use. -/
structure Attachment where
  placement : Rect
  format : PixelFormat
  /-- The canvas committed last; empty before the first commit. -/
  pixels : Bytes
  commits : Nat
  deriving DecidableEq, Repr, Inhabited

/-- A plane kept in memory: the slots in use, in the order of their numbers. -/
structure Plane where
  slots : List (Nat × Attachment)
  deriving DecidableEq, Repr, Inhabited

namespace Plane

def empty : Plane := ⟨[]⟩

def attached? (p : Plane) (slot : Nat) : Option Attachment := p.slots.lookup slot

def count (p : Plane) : Nat := p.slots.length

/-- The list with one more slot at its place in the order. -/
def insert (slot : Nat) (attachment : Attachment) :
    List (Nat × Attachment) → List (Nat × Attachment)
  | [] => [(slot, attachment)]
  | first :: rest =>
    if slot < first.1 then (slot, attachment) :: first :: rest
    else first :: insert slot attachment rest

def attach (p : Plane) (slot : Nat) (placement : Rect) (format : PixelFormat) :
    Except Failure Plane :=
  match p.attached? slot with
  | some _ => .error (.slotAttached slot)
  | none => .ok ⟨insert slot ⟨placement, format, [], 0⟩ p.slots⟩

/-- Shows a canvas in a slot; it must cover the slot exactly. -/
def commit (p : Plane) (slot : Nat) (pixels : Bytes) : Except Failure Plane :=
  match p.attached? slot with
  | none => .error (.slotNotAttached slot)
  | some a =>
    let expected := a.placement.area * canvasDepth
    if pixels.length ≠ expected then .error (.canvasSize slot pixels.length expected)
    else .ok ⟨p.slots.map fun s ↦
      if s.1 = slot then (slot, { a with pixels, commits := a.commits + 1 }) else s⟩

/-- Releases a slot; one that is not in use stays so. -/
def detach (p : Plane) (slot : Nat) : Plane := ⟨p.slots.filter (·.1 != slot)⟩

/-- A row with `pixels` written over it from the given octet on. -/
def overwrite (row : Bytes) (start : Nat) (pixels : Bytes) : Bytes :=
  row.take start ++ pixels ++ row.drop (start + pixels.length)

/-- The rows of a picture with one slot painted over them. A slot without a canvas, or one that does
not fit the picture, leaves them as they are. -/
def paint (size : Size) (rows : List Bytes) (a : Attachment) : List Bytes :=
  if a.pixels.isEmpty || !a.placement.fitsIn size then rows
  else
    let canvas := stretches (a.placement.w * canvasDepth) a.placement.h a.pixels
    rows.take a.placement.y ++
      (List.zipWith (fun row line ↦ overwrite row (a.placement.x * canvasDepth) line)
        ((rows.drop a.placement.y).take a.placement.h) canvas) ++
      rows.drop (a.placement.y + a.placement.h)

/-- The rows of a transparent picture. -/
def blankRows (size : Size) : List Bytes :=
  (List.range size.height).map fun _ ↦ List.replicate (size.width * canvasDepth) 0

/-- The rows of the plane seen as a picture of the given size. -/
def renderRows (p : Plane) (size : Size) : List Bytes :=
  (p.slots.map (·.2)).foldl (paint size) (blankRows size)

/-- The plane seen as a picture of the given size. -/
def render (p : Plane) (size : Size) : Bytes := (p.renderRows size).flatten

end Plane

end LiveCamera
