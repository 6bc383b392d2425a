import LiveCamera.Overlay.Hardware
import LiveCamera.Overlay.Region

/-!
# The region compositor

The compositor owns sixteen slots and publishes their canvases. An application allocates single
regions and draws on them; a rectangle takes four consecutive slots, one for each edge. Every slot
in the table is attached on the hardware, so an operation that the hardware breaks off leaves the
table as far as it got.
-/

namespace LiveCamera

/-- The number of overlay slots. -/
def regionLimit : Nat := 16

/-- The slots that a rectangle takes: upper, lower, left and right edge. -/
def rectangleSlots : Nat := 4

/-- The overlay slots and what they are drawn for. -/
structure Compositor where
  slots : Vector (Option Region) regionLimit
  /-- The size of the picture, once a camera is bound. -/
  camera : Option Size
  orientation : Orientation
  hardware : Hardware
  deriving Repr

namespace Compositor

def new (orientation : Orientation) (hardware : Hardware) : Compositor :=
  ⟨Vector.replicate regionLimit none, none, orientation, hardware⟩

/-- Regions are placed on pictures of this size from now on. -/
def bindCamera (c : Compositor) (size : Size) : Compositor := { c with camera := some size }

def region? (c : Compositor) (id : Nat) : Option Region := (c.slots[id]?).join

/-- The numbers of the allocated slots, in order. -/
def allocated (c : Compositor) : List Nat :=
  (List.range regionLimit).filter fun id ↦ (c.region? id).isSome

def count (c : Compositor) : Nat := c.allocated.length

def available (c : Compositor) : Nat := regionLimit - c.count

def setSlot (c : Compositor) (id : Nat) (region : Option Region) : Compositor :=
  { c with slots := c.slots.setIfInBounds id region }

/-! ## Checks -/

/-- The size of the picture; regions need it. -/
def requireCamera (c : Compositor) : Except Failure Size :=
  match c.camera with
  | none => .error .noCameraForRegions
  | some size => .ok size

/-- The size of the picture, if a region of this place and format can be shown on it. -/
def validate (c : Compositor) (rect : Rect) (format : PixelFormat) : Except Failure Size := do
  let camera ← c.requireCamera
  if format ≠ .bgra8888 then throw (.regionFormat format)
  if rect.isEmpty || !rect.fitsIn camera then throw (.regionOutside rect camera)
  return camera

/-! ## Single regions -/

def allocateAt (c : Compositor) (slot : Nat) (rect : Rect) (format : PixelFormat)
    (purpose : RegionPurpose) : Except Failure Unit × Compositor :=
  match c.validate rect format with
  | .error cause => (.error cause, c)
  | .ok camera =>
    let placement := c.orientation.place rect camera
    match c.hardware.attach slot placement format with
    | (.error cause, hardware) => (.error cause, { c with hardware })
    | (.ok _, hardware) =>
      if slot < regionLimit then
        (.ok (), ({ c with hardware } : Compositor).setSlot slot
          (some (.blank slot rect placement format purpose c.orientation)))
      else (.error (.slotOverrun slot), { c with hardware })

/-- Allocates the lowest free slot for the application. -/
def addRegion (c : Compositor) (rect : Rect) (format : PixelFormat) :
    Except Failure Nat × Compositor :=
  match c.validate rect format with
  | .error cause => (.error cause, c)
  | .ok _ =>
    match (List.range regionLimit).find? fun id ↦ (c.region? id).isNone with
    | none => (.error .noRegionAvailable, c)
    | some slot =>
      match c.allocateAt slot rect format .plain with
      | (.error cause, after) => (.error cause, after)
      | (.ok _, after) => (.ok slot, after)

/-- Makes a canvas transparent and hands it out. -/
def takeCanvas (c : Compositor) (id : Nat) : Except Failure Bytes × Compositor :=
  match c.region? id with
  | none => (.error (.regionNotAllocated id), c)
  | some region => (.ok region.erased.canvas, c.setSlot id (some region.erased))

/-- Writes octets onto a canvas from the given octet on; what reaches past its end is lost. -/
def drawOn (c : Compositor) (id offset : Nat) (pixels : Bytes) : Compositor :=
  match c.region? id with
  | none => c
  | some region =>
    c.setSlot id (some { region with
      canvas := (Plane.overwrite region.canvas offset pixels).take region.canvas.length })

/-- Publishes a canvas. -/
def updateRegion (c : Compositor) (id : Nat) : Except Failure Unit × Compositor :=
  match c.region? id with
  | none => (.error (.regionNotAllocated id), c)
  | some region =>
    let answer := c.hardware.commit id region.published
    (answer.1, { c with hardware := answer.2 })

/-- Frees a slot; freeing a free slot does nothing. -/
def deleteRegion (c : Compositor) (id : Nat) : Except Failure Unit × Compositor :=
  if regionLimit ≤ id then (.error (.regionOutOfRange id regionLimit), c)
  else
    match c.region? id with
    | none => (.ok (), c)
    | some _ =>
      match c.hardware.detach id with
      | (.error cause, hardware) => (.error cause, { c with hardware })
      | (.ok _, hardware) => (.ok (), ({ c with hardware } : Compositor).setSlot id none)

/-- Frees slots one after the other, up to the first that the hardware does not release. -/
def deleteRegions (c : Compositor) : List Nat → Except Failure Unit × Compositor
  | [] => (.ok (), c)
  | id :: rest =>
    match c.deleteRegion id with
    | (.error cause, after) => (.error cause, after)
    | (.ok _, after) => after.deleteRegions rest

def clear (c : Compositor) : Except Failure Unit × Compositor :=
  c.deleteRegions (List.range regionLimit)

/-- The hardware after the compositor is given up: the slots are released up to the first that the
hardware does not release. -/
def dispose (c : Compositor) : Hardware := c.clear.2.hardware

/-! ## Rectangles -/

/-- The rectangles that paint the border of a rectangle. A border without thickness, or at least
half as thick as the short side, is the whole rectangle; otherwise there is one strip for each edge,
and the vertical ones leave the corners to the horizontal ones. -/
def borderStrips (rect : Rect) (thickness : Int) : List Rect :=
  let short := min rect.w rect.h
  if thickness ≤ 0 ∨ (short / 2 : Nat) ≤ thickness then [rect]
  else
    let t := thickness.toNat
    let middle := rect.h - 2 * t
    [⟨rect.x, rect.y, rect.w, t⟩,
      ⟨rect.x, rect.bottom - t, rect.w, t⟩,
      ⟨rect.x, rect.y + t, t, middle⟩,
      ⟨rect.right - t, rect.y + t, t, middle⟩]

/-- Allocates, fills and publishes one strip after the other in consecutive slots. -/
def paintStrips (c : Compositor) (color : Color) (slot : Nat) :
    List Rect → Except Failure Unit × Compositor
  | [] => (.ok (), c)
  | strip :: rest =>
    match c.allocateAt slot strip .bgra8888 .rectangle with
    | (.error cause, after) => (.error cause, after)
    | (.ok _, after) =>
      match after.region? slot with
      | none => (.error (.regionNotAllocated slot), after)
      | some region =>
        match (after.setSlot slot (some (region.filled color))).updateRegion slot with
        | (.error cause, after) => (.error cause, after)
        | (.ok _, after) => after.paintStrips color (slot + 1) rest

/-- Slot numbers are machine words, so they are less than this. -/
def wordSize : Nat := 18446744073709551616

/-- The slots of the rectangle at `id`. -/
def rectangleRange (id : Nat) : List Nat := List.range' id rectangleSlots

/-- Draws a rectangle into the slots from `id` on, clipped to the picture. Earlier rectangles in
these slots are replaced; if one of them belongs to the application, nothing is drawn. The end of
the range is added up before it is compared, and that crashes where it is not a machine word. -/
def drawRect (c : Compositor) (id : Nat) (x y w h : Int) (color : Color) (thickness : Int) :
    Except Failure Unit × Compositor :=
  match c.requireCamera with
  | .error cause => (.error cause, c)
  | .ok camera =>
    if wordSize ≤ id + rectangleSlots then (.error (.rangeOverflow id), c)
    else if regionLimit < id + rectangleSlots then
      (.error (.rectangleOutOfRange id (regionLimit - rectangleSlots)), c)
    else
      let rect := Rect.clamp x y w h camera
      if rect.isEmpty then (.error (.rectangleOutside x y w h camera), c)
      else
        let range := rectangleRange id
        match range.find? fun slot ↦ (c.region? slot).any fun r ↦ r.purpose != .rectangle with
        | some busy => (.error (.regionInUse busy id (id + rectangleSlots - 1)), c)
        | none =>
          match c.deleteRegions range with
          | (.error cause, after) => (.error cause, after)
          | (.ok _, after) => after.paintStrips color id (borderStrips rect thickness)

/-- Drawing text is refused: there is nothing to rasterize it with. -/
def drawString (c : Compositor) : Except Failure Unit × Compositor := (.error .drawString, c)

end Compositor

end LiveCamera
