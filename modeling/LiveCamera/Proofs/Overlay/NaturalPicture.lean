import LiveCamera.Proofs.Overlay.Rendering
import LiveCamera.Proofs.Overlay.Requests
import Mathlib.Logic.Function.Basic

/-!
# The natural picture

Regions are drawn in picture coordinates.  The natural picture is what an application means to show:
each pixel comes from the last region that covers it, out of the canvas as it was published last.
The plane shows its mirror image, as the orientation asks for (`render_eq_naturalPicture`), so an
application need not know how the plane is mounted.

What was published is recorded beside the compositor, and `Exhibits` ties the record to the slots of
the plane.
-/

namespace LiveCamera

open Compositor

/-! ## Mirrored places -/

namespace Orientation

variable {rect : Rect} {bounds : Size} {x y : Nat}

/-- A moved rectangle covers the mirror images of what the rectangle covered. -/
theorem contains_place (o : Orientation) (hwidth : bounds.width ≤ Rect.maxCoordinate)
    (hheight : bounds.height ≤ Rect.maxCoordinate) (h : rect.fitsIn bounds = true)
    (hx : x < bounds.width) (hy : y < bounds.height) :
    (o.place rect bounds).contains (mirror o.horizontal bounds.width x)
        (mirror o.vertical bounds.height y) = true ↔ rect.contains x y = true := by
  rw [Rect.contains_iff_of_fitsIn h,
    Rect.contains_iff_of_fitsIn (o.fitsIn_place hwidth hheight h)]
  rw [Rect.fitsIn_iff] at h
  simp only [place, mirror]
  split_ifs <;> omega

/-- Turning a pixel around inside a moved rectangle leads back to its place in the rectangle. -/
theorem mirror_sub_place (o : Orientation) (h : rect.fitsIn bounds = true)
    (hcontains : rect.contains x y = true) :
    mirror o.horizontal rect.w (mirror o.horizontal bounds.width x - (o.place rect bounds).x) =
        x - rect.x ∧
      mirror o.vertical rect.h (mirror o.vertical bounds.height y - (o.place rect bounds).y) =
        y - rect.y := by
  rw [Rect.contains_iff_of_fitsIn h] at hcontains
  rw [Rect.fitsIn_iff] at h
  simp only [place, mirror]
  constructor <;> split_ifs <;> omega

end Orientation

/-! ## The last index with a value -/

theorem findSome?_reverse_range_eq_none {α : Type} {f : Nat → Option α} {count : Nat} :
    (List.range count).reverse.findSome? f = none ↔ ∀ i < count, f i = none := by
  simp

/-- Searching from the end finds the last index that has a value. -/
theorem findSome?_reverse_range_eq_some {α : Type} {f : Nat → Option α} {count : Nat} {a : α} :
    (List.range count).reverse.findSome? f = some a ↔
      ∃ i < count, f i = some a ∧ ∀ j, i < j → j < count → f j = none := by
  induction count with
  | zero => simp
  | succ count ih =>
    rw [List.range_succ, List.reverse_append, List.reverse_singleton, List.singleton_append,
      List.findSome?_cons]
    cases hlast : f count with
    | some b =>
      constructor
      · intro hb
        exact ⟨count, Nat.lt_succ_self count, hlast.trans hb, fun j hlow hhigh ↦ by omega⟩
      · rintro ⟨i, hi, hvalue, hlater⟩
        obtain rfl : i = count := by
          by_contra hne
          have hnone := hlater count (by omega) (Nat.lt_succ_self count)
          rw [hlast] at hnone
          cases hnone
        exact hlast.symm.trans hvalue
    | none =>
      dsimp only
      rw [ih]
      constructor
      · rintro ⟨i, hi, hvalue, hlater⟩
        refine ⟨i, by omega, hvalue, ?_⟩
        intro j hlow hhigh
        rcases Nat.lt_succ_iff_lt_or_eq.mp hhigh with hlt | rfl
        · exact hlater j hlow hlt
        · exact hlast
      · rintro ⟨i, hi, hvalue, hlater⟩
        have hne : i ≠ count := by
          rintro rfl
          rw [hlast] at hvalue
          cases hvalue
        exact ⟨i, by omega, hvalue, fun j hlow hhigh ↦ hlater j hlow (by omega)⟩

/-! ## What was published -/

/-- A compositor with the canvases that its regions have published last. -/
structure Exhibition where
  compositor : Compositor
  shown : Nat → Option Bytes

namespace Exhibition

/-- The exhibition of a new compositor over a plane on which every call works. -/
def start (o : Orientation) : Exhibition := ⟨.new o .healthy, fun _ ↦ none⟩

/-- The record after a request that succeeded: an update publishes the canvas of its region, drawing
a rectangle publishes all of its strips, and a region that is deleted shows nothing any more. -/
def published (e : Exhibition) (after : Compositor) : Request → Nat → Option Bytes
  | .update id => Function.update e.shown id ((after.region? id).map Region.canvas)
  | .delete id => Function.update e.shown id none
  | .clear => fun _ ↦ none
  | .rectangle id .. => fun slot ↦
    if id ≤ slot ∧ slot < id + rectangleSlots then (after.region? slot).map Region.canvas
    else e.shown slot
  | _ => e.shown

/-- The record after a request; one that failed has published nothing. -/
def record (e : Exhibition) (request : Request) (answer : Except Failure Unit × Compositor) :
    Nat → Option Bytes :=
  match answer.1 with
  | .error _ => e.shown
  | .ok _ => e.published answer.2 request

def perform (e : Exhibition) (request : Request) : Exhibition :=
  ⟨(e.compositor.perform request).2, e.record request (e.compositor.perform request)⟩

def performAll (e : Exhibition) (requests : List Request) : Exhibition :=
  requests.foldl perform e

theorem performAll_append (e : Exhibition) (earlier later : List Request) :
    e.performAll (earlier ++ later) = (e.performAll earlier).performAll later :=
  List.foldl_append

theorem compositor_performAll (e : Exhibition) (requests : List Request) :
    (e.performAll requests).compositor = e.compositor.performAll requests := by
  induction requests generalizing e with
  | nil => rfl
  | cons request rest ih => exact ih (e.perform request)

/-- What a region shows at a pixel of the picture, if it has published its canvas and covers the
pixel. -/
def pixel? (e : Exhibition) (x y id : Nat) : Option Bytes :=
  (e.compositor.region? id).bind fun region ↦ (e.shown id).bind fun canvas ↦
    if region.rect.contains x y then
      some (pixelAt canvasDepth region.rect.w canvas (x - region.rect.x) (y - region.rect.y))
    else none

/-- The pixel of the last region that shows one there; transparent if none does. -/
def naturalPixel (e : Exhibition) (x y : Nat) : Bytes :=
  ((List.range regionLimit).reverse.findSome? (e.pixel? x y)).getD (List.replicate canvasDepth 0)

end Exhibition

/-! ## The record and the plane -/

/-- A region that lies on the picture, with a canvas of its size. -/
structure Region.IsOn (region : Region) (o : Orientation) (camera : Size) : Prop where
  orientation : region.orientation = o
  nonempty : region.rect.isEmpty = false
  fits : region.rect.fitsIn camera = true
  canvas : region.canvas.length = Region.canvasLength region.rect

/-- What a slot has to do with its record: the slot of a region shows the turned canvas that was
published last. -/
inductive Compositor.SlotView.Shows (o : Orientation) (camera : Size) (slot : Nat) :
    SlotView → Option Bytes → Prop
  | free : Shows o camera slot ⟨none, none⟩ none
  | region (region : Region) (a : Attachment) (shown : Option Bytes)
    (hregion : region.IsOn o camera) (hplacement : a.placement = o.place region.rect camera)
    (hshown : ∀ canvas, shown = some canvas →
      canvas.length = Region.canvasLength region.rect)
    (hpixels : a.pixels = shown.elim [] fun canvas ↦
      o.apply canvas region.rect.w region.rect.h canvasDepth) :
    Shows o camera slot ⟨some region, some a⟩ shown

namespace Compositor

variable {o : Orientation} {camera : Size} {c after : Compositor} {slot : Nat} {region : Region}
  {view : SlotView} {s : Option Bytes} {shown : Nat → Option Bytes}

theorem SlotView.Shows.of_none (h : SlotView.Shows o camera slot view s)
    (hregion : view.region = none) : s = none ∧ view = ⟨none, none⟩ := by
  cases h with
  | free => exact ⟨rfl, rfl⟩
  | region => cases hregion

theorem SlotView.Shows.of_some (h : SlotView.Shows o camera slot view s)
    (hregion : view.region = some region) :
    ∃ a, view = ⟨some region, some a⟩ ∧ region.IsOn o camera ∧
      a.placement = o.place region.rect camera ∧
      (∀ canvas, s = some canvas → canvas.length = Region.canvasLength region.rect) ∧
      a.pixels = s.elim [] fun canvas ↦
        o.apply canvas region.rect.w region.rect.h canvasDepth := by
  cases h with
  | free => cases hregion
  | region r a s hon hplacement hshown hpixels =>
    obtain rfl := Option.some.inj hregion
    exact ⟨a, rfl, hon, hplacement, hshown, hpixels⟩

/-- Every slot shows what was recorded for it, on hardware that makes no call fail. -/
structure Exhibits (o : Orientation) (camera : Size) (c : Compositor)
    (shown : Nat → Option Bytes) : Prop where
  oriented : c.orientation = o
  bound : c.camera = some camera
  healthy : c.hardware.verdicts = []
  ordered : c.hardware.plane.Ordered
  shows : ∀ slot, (c.view slot).Shows o camera slot (shown slot)

theorem Exhibits.attaching (h : c.Exhibits o camera shown) : c.hardware.attaching.next = none := by
  rw [(Hardware.verdicts_eq_nil_iff.mp h.healthy).1]
  rfl

theorem Exhibits.committing (h : c.Exhibits o camera shown) :
    c.hardware.committing.next = none := by
  rw [(Hardware.verdicts_eq_nil_iff.mp h.healthy).2.1]
  rfl

theorem Exhibits.detaching (h : c.Exhibits o camera shown) : c.hardware.detaching.next = none := by
  rw [(Hardware.verdicts_eq_nil_iff.mp h.healthy).2.2]
  rfl

/-- A change of one slot that the record follows. -/
theorem Exhibits.sets (h : c.Exhibits o camera shown) (hsets : c.Sets slot view after)
    (hview : view.Shows o camera slot s) :
    after.Exhibits o camera (Function.update shown slot s) where
  oriented := hsets.continues.orientation.trans h.oriented
  bound := hsets.continues.camera.trans h.bound
  healthy := List.eq_nil_of_subset_nil (h.healthy ▸ hsets.continues.verdicts)
  ordered := hsets.continues.ordered h.ordered
  shows other := by
    rw [hsets.view, Function.update_apply]
    split_ifs with hother
    · exact hother ▸ hview
    · exact h.shows other

/-- A change of one slot that shows the same as before. -/
theorem Exhibits.sets_of_eq (h : c.Exhibits o camera shown) (hsets : c.Sets slot view after)
    (hview : view.Shows o camera slot (shown slot)) : after.Exhibits o camera shown := by
  have hafter := h.sets hsets hview
  rwa [Function.update_eq_self] at hafter

/-! ## Requests -/

theorem Exhibits.setSlot (h : c.Exhibits o camera shown) (hregion : c.region? slot = some region)
    {canvas : Bytes} (hcanvas : canvas.length = region.canvas.length) :
    (c.setSlot slot (some { region with canvas })).Exhibits o camera shown := by
  obtain ⟨a, hview, hon, hplacement, hshown, hpixels⟩ := (h.shows slot).of_some hregion
  have hsets := sets_setSlot c (lt_of_region?_eq_some hregion) (some { region with canvas })
  rw [hview] at hsets
  exact h.sets_of_eq hsets (.region { region with canvas } a _
    ⟨hon.orientation, hon.nonempty, hon.fits, hcanvas.trans hon.canvas⟩ hplacement hshown hpixels)

theorem Exhibits.allocateAt (h : c.Exhibits o camera shown) (hslot : slot < regionLimit)
    (hfree : c.region? slot = none) {rect : Rect} {format : PixelFormat} (purpose : RegionPurpose)
    (hvalid : c.validate rect format = .ok camera) :
    (c.allocateAt slot rect format purpose).2.Exhibits o camera shown := by
  obtain ⟨hnone, hview⟩ := (h.shows slot).of_none hfree
  obtain ⟨-, -, hempty, hfits⟩ := validate_eq_ok_iff.mp hvalid
  have hputs := puts_allocateAt purpose hvalid hslot hview
  rw [h.attaching, h.oriented] at hputs
  refine h.sets_of_eq hputs.ok.2 ?_
  rw [hnone]
  refine .region _ _ none ⟨rfl, hempty, hfits, Region.length_blank ..⟩ rfl ?_ rfl
  intro canvas hcanvas
  cases hcanvas

theorem Exhibits.addRegion (h : c.Exhibits o camera shown) (rect : Rect) (format : PixelFormat) :
    (c.addRegion rect format).2.Exhibits o camera shown := by
  rcases addRegion_cases c rect format with ⟨cause, -, hadd⟩ |
    ⟨size, hvalid, ⟨-, hadd⟩ | ⟨slot, hslot, hfree, -, hadd⟩⟩
  · rw [hadd]
    exact h
  · rw [hadd]
    exact h
  · rw [hadd]
    obtain ⟨hcamera, -, -, -⟩ := validate_eq_ok_iff.mp hvalid
    obtain rfl := Option.some.inj (h.bound.symm.trans hcamera)
    exact h.allocateAt hslot hfree .plain hvalid

/-- Publishing a canvas succeeds, and the slot shows it from then on. -/
theorem Exhibits.updateRegion (h : c.Exhibits o camera shown)
    (hregion : c.region? slot = some region) :
    (c.updateRegion slot).1 = .ok () ∧ (c.updateRegion slot).2.region? slot = some region ∧
      (c.updateRegion slot).2.Exhibits o camera
        (Function.update shown slot (some region.canvas)) := by
  obtain ⟨a, hview, hon, hplacement, -, -⟩ := (h.shows slot).of_some hregion
  have hpublished : region.published.length = a.placement.area * canvasDepth := by
    rw [Region.length_published, hon.canvas, hplacement]
    rfl
  have hputs := puts_updateRegion hview hpublished
  rw [h.committing] at hputs
  obtain ⟨hresult, hsets⟩ := hputs.ok
  refine ⟨hresult, congrArg SlotView.region hsets.view_self, h.sets hsets ?_⟩
  refine .region region _ (some region.canvas) hon hplacement ?_ ?_
  · intro canvas hcanvas
    obtain rfl := Option.some.inj hcanvas
    exact hon.canvas
  · rw [← hon.orientation]
    rfl

/-- Deleting a region succeeds, and its slot shows nothing from then on. -/
theorem Exhibits.deleteRegion (h : c.Exhibits o camera shown) (hslot : slot < regionLimit) :
    (c.deleteRegion slot).1 = .ok () ∧
      (c.deleteRegion slot).2.Exhibits o camera (Function.update shown slot none) := by
  cases hregion : c.region? slot with
  | none =>
    rw [deleteRegion_of_free hslot hregion]
    obtain ⟨hnone, -⟩ := (h.shows slot).of_none hregion
    rw [← hnone, Function.update_eq_self]
    exact ⟨rfl, h⟩
  | some region =>
    have hputs := puts_deleteRegion hregion
    rw [h.detaching] at hputs
    exact ⟨hputs.ok.1, h.sets hputs.ok.2 .free⟩

theorem Exhibits.deleteRegions (h : c.Exhibits o camera shown) {ids : List Nat}
    (hids : ∀ id ∈ ids, id < regionLimit) :
    (c.deleteRegions ids).1 = .ok () ∧ (c.deleteRegions ids).2.Exhibits o camera
      (fun slot ↦ if slot ∈ ids then none else shown slot) := by
  induction ids generalizing c shown with
  | nil => exact ⟨rfl, by simpa [Compositor.deleteRegions] using h⟩
  | cons id rest ih =>
    obtain ⟨hresult, hfirst⟩ := h.deleteRegion (hids id List.mem_cons_self)
    obtain ⟨hok, hrest⟩ := ih hfirst fun other hother ↦ hids other (List.mem_cons_of_mem id hother)
    have hrecord : (fun slot ↦ if slot ∈ id :: rest then none else shown slot) =
        fun slot ↦ if slot ∈ rest then none else Function.update shown id none slot := by
      funext slot
      by_cases hself : slot = id
      · rw [hself, if_pos List.mem_cons_self, Function.update_self, ite_self]
      · rw [Function.update_of_ne hself]
        simp only [List.mem_cons, hself, false_or]
    rw [deleteRegions_cons, andThen_of_ok hresult, hrecord]
    exact ⟨hok, hrest⟩

/-- Painting a strip into a free slot succeeds, and the slot shows it. -/
theorem Exhibits.paintStrip (h : c.Exhibits o camera shown) (hslot : slot < regionLimit)
    (hfree : c.region? slot = none) {strip : Rect} (color : Color) (hempty : strip.isEmpty = false)
    (hfits : strip.fitsIn camera = true) :
    (c.paintStrip color slot strip).1 = .ok () ∧
      (∀ other ≠ slot, (c.paintStrip color slot strip).2.region? other = c.region? other) ∧
      (c.paintStrip color slot strip).2.Exhibits o camera (Function.update shown slot
        (((c.paintStrip color slot strip).2.region? slot).map Region.canvas)) := by
  obtain ⟨-, hview⟩ := (h.shows slot).of_none hfree
  have hvalid : c.validate strip .bgra8888 = .ok camera :=
    validate_eq_ok_iff.mpr ⟨h.bound, rfl, hempty, hfits⟩
  rcases paintStrip_cases color hvalid hslot hview with
    ⟨cause, -, -, hmem, -, -⟩ | ⟨hresult, hsets⟩
  · rw [h.healthy] at hmem
    cases hmem
  · refine ⟨hresult, fun other hother ↦ congrArg SlotView.region (hsets.view_of_ne hother), ?_⟩
    have hregion := congrArg SlotView.region hsets.view_self
    dsimp only [Compositor.view] at hregion
    rw [hregion, Option.map_some]
    have hcanvas := (Region.length_filled (Region.blank slot strip
      (c.orientation.place strip camera) .bgra8888 .rectangle c.orientation) color).trans
      (Region.length_blank ..)
    refine h.sets hsets (.region _ _ _ ⟨h.oriented, hempty, hfits, hcanvas⟩ ?_ ?_ ?_)
    · rw [h.oriented]
      rfl
    · intro canvas hsome
      obtain rfl := Option.some.inj hsome
      exact hcanvas
    · rw [← h.oriented]
      rfl

/-- Painting strips into free slots succeeds, and the slots show them. -/
theorem Exhibits.paintStrips (h : c.Exhibits o camera shown) {strips : List Rect}
    (hroom : slot + strips.length ≤ regionLimit)
    (hfree : ∀ other, slot ≤ other → other < slot + strips.length → c.region? other = none)
    (color : Color)
    (hstrips : ∀ strip ∈ strips, strip.isEmpty = false ∧ strip.fitsIn camera = true) :
    (c.paintStrips color slot strips).1 = .ok () ∧
      (∀ other, other < slot ∨ slot + strips.length ≤ other →
        (c.paintStrips color slot strips).2.region? other = c.region? other) ∧
      (c.paintStrips color slot strips).2.Exhibits o camera fun other ↦
        if slot ≤ other ∧ other < slot + strips.length then
          ((c.paintStrips color slot strips).2.region? other).map Region.canvas
        else shown other := by
  induction strips generalizing c slot shown with
  | nil =>
    refine ⟨rfl, fun _ _ ↦ rfl, ?_⟩
    have hrecord : (fun other ↦ if slot ≤ other ∧ other < slot + ([] : List Rect).length then
        ((c.paintStrips color slot []).2.region? other).map Region.canvas
        else shown other) = shown := by
      funext other
      rw [List.length_nil, if_neg (by omega)]
    rw [hrecord]
    exact h
  | cons strip rest ih =>
    rw [List.length_cons] at *
    obtain ⟨hempty, hfits⟩ := hstrips strip List.mem_cons_self
    obtain ⟨hresult, hothers, hfirst⟩ := h.paintStrip (show slot < regionLimit by omega)
      (hfree slot (Nat.le_refl _) (by omega)) color hempty hfits
    have hafter : ∀ other, slot + 1 ≤ other → other < slot + 1 + rest.length →
        (c.paintStrip color slot strip).2.region? other = none := by
      intro other hlow hhigh
      rw [hothers other (by omega)]
      exact hfree other (by omega) (by omega)
    obtain ⟨hok, hrest, hlast⟩ := ih hfirst (by omega) hafter fun other hother ↦
      hstrips other (List.mem_cons_of_mem strip hother)
    rw [paintStrips_cons, andThen_of_ok hresult]
    refine ⟨hok, ?_, ?_⟩
    · intro other hother
      rw [hrest other (by omega), hothers other (by omega)]
    · have hrecord : ∀ other, (if slot ≤ other ∧ other < slot + (rest.length + 1) then
            (((c.paintStrip color slot strip).2.paintStrips color (slot + 1) rest).2.region?
              other).map Region.canvas else shown other) =
          if slot + 1 ≤ other ∧ other < slot + 1 + rest.length then
            (((c.paintStrip color slot strip).2.paintStrips color (slot + 1) rest).2.region?
              other).map Region.canvas
          else Function.update shown slot
            (((c.paintStrip color slot strip).2.region? slot).map Region.canvas) other := by
        intro other
        by_cases hself : other = slot
        · subst hself
          rw [if_pos (by omega), if_neg (by omega), Function.update_self,
            hrest other (by omega)]
        · rw [Function.update_of_ne hself]
          split_ifs <;> first | rfl | omega
      rw [funext hrecord]
      exact hlast

/-- Deleting what is in the range of a rectangle leaves its slots free, and they show nothing. -/
theorem Exhibits.deleteRange (h : c.Exhibits o camera shown) {id : Nat}
    (hroom : id + rectangleSlots ≤ regionLimit) :
    (c.deleteRegions (rectangleRange id)).1 = .ok () ∧
      (∀ slot, id ≤ slot → slot < id + rectangleSlots →
        (c.deleteRegions (rectangleRange id)).2.region? slot = none) ∧
      (c.deleteRegions (rectangleRange id)).2.Exhibits o camera fun slot ↦
        if id ≤ slot ∧ slot < id + rectangleSlots then none else shown slot := by
  have hids : ∀ slot ∈ rectangleRange id, slot < regionLimit := by
    intro slot hslot
    obtain ⟨-, hhigh⟩ := mem_rectangleRange.mp hslot
    omega
  obtain ⟨hdeleted, hbefore⟩ := h.deleteRegions hids
  simp only [mem_rectangleRange] at hbefore
  refine ⟨hdeleted, ?_, hbefore⟩
  intro slot hlow hhigh
  apply region?_deleteRegions_of_mem _ hdeleted (mem_rectangleRange.mpr ⟨hlow, hhigh⟩)
  intro other _ hnone
  exact ((h.shows other).of_none hnone).2

/-- Drawing a rectangle either fails and shows nothing new, or its slots show what was painted. -/
theorem Exhibits.drawRect (h : c.Exhibits o camera shown)
    (hwidth : camera.width ≤ Rect.maxCoordinate) (hheight : camera.height ≤ Rect.maxCoordinate)
    (id : Nat) (x y w h' : Int) (color : Color) (thickness : Int) :
    ((∃ cause, (c.drawRect id x y w h' color thickness).1 = .error cause) ∧
        (c.drawRect id x y w h' color thickness).2.Exhibits o camera shown) ∨
      ((c.drawRect id x y w h' color thickness).1 = .ok () ∧
        (c.drawRect id x y w h' color thickness).2.Exhibits o camera fun slot ↦
          if id ≤ slot ∧ slot < id + rectangleSlots then
            ((c.drawRect id x y w h' color thickness).2.region? slot).map Region.canvas
          else shown slot) := by
  rcases drawRect_cases c id x y w h' color thickness with
    ⟨cause, -, hdraw⟩ | ⟨size, hsize, hroom, hempty, -, hdraw⟩
  · rw [hdraw]
    exact .inl ⟨⟨cause, rfl⟩, h⟩
  obtain rfl := Option.some.inj (h.bound.symm.trans hsize)
  have hfits := Rect.fitsIn_clamp hwidth hheight x y w h'
  have hstrips : ∀ strip ∈ borderStrips (Rect.clamp x y w h' camera) thickness,
      strip.isEmpty = false ∧ strip.fitsIn camera = true :=
    fun _ hstrip ↦ fitsIn_of_mem_borderStrips hempty hfits hstrip
  have hcount := length_borderStrips (Rect.clamp x y w h' camera) thickness
  rw [hdraw]
  generalize borderStrips (Rect.clamp x y w h' camera) thickness = strips at *
  obtain ⟨hdeleted, hfree, hbefore⟩ := h.deleteRange hroom
  rw [andThen_of_ok hdeleted]
  generalize (c.deleteRegions (rectangleRange id)).2 = before at hbefore hfree
  obtain ⟨hok, hothers, hafter⟩ := hbefore.paintStrips
    (show id + strips.length ≤ regionLimit by omega)
    (fun slot hlow hhigh ↦ hfree slot hlow (by omega)) color hstrips
  refine .inr ⟨hok, ?_⟩
  -- The slots of the range that were not painted are free, so they show nothing either way.
  have hrecord : ∀ slot, (if id ≤ slot ∧ slot < id + rectangleSlots then
        ((before.paintStrips color id strips).2.region? slot).map Region.canvas
        else shown slot) =
      if id ≤ slot ∧ slot < id + strips.length then
        ((before.paintStrips color id strips).2.region? slot).map Region.canvas
      else if id ≤ slot ∧ slot < id + rectangleSlots then none else shown slot := by
    intro slot
    by_cases hpainted : id ≤ slot ∧ slot < id + strips.length
    · rw [if_pos hpainted, if_pos (by omega)]
    · rw [if_neg hpainted]
      apply ite_congr rfl
      · intro hslot
        rw [hothers slot (by omega), hfree slot hslot.1 hslot.2]
        rfl
      · intro _
        rfl
  rw [funext hrecord]
  exact hafter

end Compositor

namespace Exhibition

variable {o : Orientation} {camera : Size} {e : Exhibition} {request : Request} {x y : Nat}

theorem record_of_ok {answer : Except Failure Unit × Compositor} (h : answer.1 = .ok ()) :
    e.record request answer = e.published answer.2 request := by
  simp only [record, h]

theorem record_of_error {answer : Except Failure Unit × Compositor} {cause : Failure}
    (h : answer.1 = .error cause) : e.record request answer = e.shown := by
  simp only [record, h]

/-- The record follows every request but the binding of another camera. -/
theorem exhibits_perform (h : e.compositor.Exhibits o camera e.shown)
    (hwidth : camera.width ≤ Rect.maxCoordinate) (hheight : camera.height ≤ Rect.maxCoordinate)
    (hbind : ∀ size, request ≠ .bind size) :
    (e.perform request).compositor.Exhibits o camera (e.perform request).shown := by
  unfold perform
  dsimp only
  cases request with
  | bind size => exact absurd rfl (hbind size)
  | add rect format =>
    have hafter := h.addRegion rect format
    simp only [record, published, Compositor.perform]
    cases (e.compositor.addRegion rect format).1 <;> exact hafter
  | take id =>
    simp only [record, published, Compositor.perform, takeCanvas]
    cases hregion : e.compositor.region? id with
    | none => exact h
    | some region => exact h.setSlot hregion (Region.length_erased region)
  | draw id offset pixels =>
    simp only [record, published, Compositor.perform, drawOn]
    cases hregion : e.compositor.region? id with
    | none => exact h
    | some region => exact h.setSlot hregion (Region.length_overwritten region offset pixels)
  | update id =>
    cases hregion : e.compositor.region? id with
    | none =>
      simp only [record, Compositor.perform, updateRegion, hregion]
      exact h
    | some region =>
      obtain ⟨hok, hsame, hafter⟩ := h.updateRegion hregion
      rw [Compositor.perform, record_of_ok hok, published, hsame]
      exact hafter
  | delete id =>
    by_cases hid : id < regionLimit
    · obtain ⟨hok, hafter⟩ := h.deleteRegion hid
      rw [Compositor.perform, record_of_ok hok]
      exact hafter
    · rw [Compositor.perform, deleteRegion_of_le (Nat.not_lt.mp hid)]
      exact h
  | clear =>
    have hids : ∀ id ∈ List.range regionLimit, id < regionLimit := fun _ ↦ List.mem_range.mp
    obtain ⟨hok, hafter⟩ := h.deleteRegions hids
    have hrecord : (fun slot ↦ if slot ∈ List.range regionLimit then none else e.shown slot) =
        fun _ ↦ none := by
      funext slot
      by_cases hslot : slot < regionLimit
      · rw [if_pos (List.mem_range.mpr hslot)]
      · have hnone := (h.shows slot).of_none (region?_of_le e.compositor (Nat.not_lt.mp hslot))
        rw [hnone.1, ite_self]
    rw [hrecord] at hafter
    rw [Compositor.perform, clear, record_of_ok hok]
    exact hafter
  | rectangle id x y w h' color thickness =>
    rw [Compositor.perform]
    rcases h.drawRect hwidth hheight id x y w h' color thickness with
      ⟨⟨cause, hcause⟩, hafter⟩ | ⟨hok, hafter⟩
    · rw [record_of_error hcause]
      exact hafter
    · rw [record_of_ok hok]
      exact hafter

theorem exhibits_performAll (h : e.compositor.Exhibits o camera e.shown)
    (hwidth : camera.width ≤ Rect.maxCoordinate) (hheight : camera.height ≤ Rect.maxCoordinate)
    {requests : List Request} (hbind : ∀ size, .bind size ∉ requests) :
    (e.performAll requests).compositor.Exhibits o camera (e.performAll requests).shown := by
  induction requests generalizing e with
  | nil => exact h
  | cons request rest ih =>
    refine ih (exhibits_perform h hwidth hheight ?_) ?_
    · rintro size rfl
      exact hbind size List.mem_cons_self
    · intro size hsize
      exact hbind size (List.mem_cons_of_mem request hsize)

/-- Before a camera is bound, requests come to nothing. -/
theorem perform_start (o : Orientation) (hbind : ∀ size, request ≠ .bind size) :
    (start o).perform request = start o := by
  have hfree : ∀ id, (start o).compositor.region? id = none := by
    intro id
    simp only [start, new, region?, Vector.getElem?_replicate]
    split_ifs <;> rfl
  have hunbound : (start o).compositor.camera = none := rfl
  unfold perform
  cases request with
  | bind size => exact absurd rfl (hbind size)
  | add rect format =>
    simp only [record, Compositor.perform, addRegion, validate_of_unbound hunbound, Except.map]
  | take id => simp only [record, Compositor.perform, takeCanvas, hfree, Except.map]
  | draw id offset pixels => simp only [record, published, Compositor.perform, drawOn, hfree]
  | update id => simp only [record, Compositor.perform, updateRegion, hfree]
  | delete id =>
    by_cases hid : id < regionLimit
    · simp only [record, published, Compositor.perform, deleteRegion_of_free hid (hfree id)]
      rw [show Function.update (start o).shown id none = (start o).shown from
        Function.update_eq_self id _]
    · simp only [record, Compositor.perform, deleteRegion_of_le (Nat.not_lt.mp hid)]
  | clear =>
    have hids : ∀ id ∈ List.range regionLimit,
        id < regionLimit ∧ (start o).compositor.region? id = none :=
      fun id hid ↦ ⟨List.mem_range.mp hid, hfree id⟩
    simp only [record, published, Compositor.perform, clear, deleteRegions_of_free hids]
    rfl
  | rectangle => simp only [record, Compositor.perform, drawRect, requireCamera, hunbound]

theorem performAll_start (o : Orientation) {requests : List Request}
    (hbind : ∀ size, .bind size ∉ requests) : (start o).performAll requests = start o := by
  induction requests with
  | nil => rfl
  | cons request rest ih =>
    have hfirst : (start o).perform request = start o := by
      apply perform_start
      rintro size rfl
      exact hbind size List.mem_cons_self
    rw [performAll, List.foldl_cons, hfirst]
    exact ih fun size hsize ↦ hbind size (List.mem_cons_of_mem request hsize)

/-- Binding the camera begins the exhibition. -/
theorem exhibits_bind (o : Orientation) (camera : Size) :
    ((start o).perform (.bind camera)).compositor.Exhibits o camera
      ((start o).perform (.bind camera)).shown where
  oriented := rfl
  bound := rfl
  healthy := rfl
  ordered := Plane.ordered_empty
  shows slot := by
    have hview : ((start o).perform (.bind camera)).compositor.view slot = ⟨none, none⟩ := by
      simp only [perform, Compositor.perform, bindCamera, start, new, view, region?,
        Vector.getElem?_replicate]
      split_ifs <;> rfl
    rw [hview]
    exact .free

/-! ## Pixels -/

/-- The turned canvas in a moved rectangle shows the mirror image of the canvas. -/
theorem pixelAt_apply_place {rect : Rect} {canvas : Bytes} (hfits : rect.fitsIn camera = true)
    (hcanvas : canvas.length = Region.canvasLength rect) (hcontains : rect.contains x y = true) :
    pixelAt canvasDepth rect.w (o.apply canvas rect.w rect.h canvasDepth)
        (mirror o.horizontal camera.width x - (o.place rect camera).x)
        (mirror o.vertical camera.height y - (o.place rect camera).y) =
      pixelAt canvasDepth rect.w canvas (x - rect.x) (y - rect.y) := by
  have hroom : rect.w * canvasDepth * rect.h ≤ canvas.length := by
    rw [hcanvas, Region.canvasLength, Nat.mul_right_comm]
  have hinside := (Rect.contains_iff_of_fitsIn hfits x y).mp hcontains
  have hbounds := Rect.fitsIn_iff.mp hfits
  obtain ⟨hcolumn, hrow⟩ := o.mirror_sub_place hfits hcontains
  have hx : mirror o.horizontal camera.width x - (o.place rect camera).x < rect.w := by
    simp only [Orientation.place, mirror]
    split_ifs <;> omega
  have hy : mirror o.vertical camera.height y - (o.place rect camera).y < rect.h := by
    simp only [Orientation.place, mirror]
    split_ifs <;> omega
  rw [o.pixelAt_apply (by decide) hroom hx hy, hcolumn, hrow]

/-- What a region shows at a pixel is what its slot paints at the mirror image of the pixel, and a
slot without a region paints nothing. -/
theorem pixel?_eq_some_iff (h : e.compositor.Exhibits o camera e.shown)
    (hwidth : camera.width ≤ Rect.maxCoordinate) (hheight : camera.height ≤ Rect.maxCoordinate)
    (hx : x < camera.width) (hy : y < camera.height) (id : Nat) (pixel : Bytes) :
    e.pixel? x y id = some pixel ↔
      ∃ a, e.compositor.hardware.plane.attached? id = some a ∧
        a.Covers camera (mirror o.horizontal camera.width x) (mirror o.vertical camera.height y) ∧
        pixelAt canvasDepth a.placement.w a.pixels
          (mirror o.horizontal camera.width x - a.placement.x)
          (mirror o.vertical camera.height y - a.placement.y) = pixel := by
  have hslot := h.shows id
  unfold pixel?
  cases hregion : e.compositor.region? id with
  | none =>
    obtain ⟨-, hview⟩ := hslot.of_none hregion
    have hattached := congrArg SlotView.attachment hview
    constructor
    · intro hpixel
      cases hpixel
    · rintro ⟨a, ha, -⟩
      exact nomatch ha.symm.trans hattached
  | some region =>
    obtain ⟨a, hview, hon, hplacement, hshown, hpixels⟩ := hslot.of_some hregion
    have hattached : e.compositor.hardware.plane.attached? id = some a :=
      congrArg SlotView.attachment hview
    cases hpublished : e.shown id with
    | none =>
      rw [hpublished] at hpixels
      constructor
      · intro hpixel
        cases hpixel
      · rintro ⟨b, hb, hcovers, -⟩
        obtain rfl := Option.some.inj (hattached.symm.trans hb)
        exact absurd hpixels hcovers.1.1
    | some canvas =>
      have hcanvas := hshown canvas hpublished
      rw [hpublished, Option.elim_some] at hpixels
      have hcontains := o.contains_place hwidth hheight hon.fits hx hy
      have hvisible : a.IsShown camera := by
        refine ⟨?_, hplacement ▸ o.fitsIn_place hwidth hheight hon.fits⟩
        obtain ⟨hw, hh⟩ := Rect.isEmpty_eq_false_iff.mp hon.nonempty
        rw [← List.length_pos_iff, hpixels, o.length_apply, hcanvas]
        exact Nat.mul_pos (Nat.mul_pos (by omega) (by omega)) (by decide)
      simp only [Option.bind_some]
      constructor
      · intro hpixel
        split_ifs at hpixel with hinside
        refine ⟨a, hattached, ⟨hvisible, hplacement ▸ hcontains.mpr hinside⟩, ?_⟩
        rw [hplacement, hpixels, Orientation.place_w, pixelAt_apply_place hon.fits hcanvas hinside]
        exact Option.some.inj hpixel
      · rintro ⟨b, hb, hcovers, hpixel⟩
        obtain rfl := Option.some.inj (hattached.symm.trans hb)
        have hinside : region.rect.contains x y = true := hcontains.mp (hplacement ▸ hcovers.2)
        rw [hplacement, hpixels, Orientation.place_w,
          pixelAt_apply_place hon.fits hcanvas hinside] at hpixel
        rw [if_pos hinside, hpixel]

/-- Slots are empty or filled with a canvas of their size. -/
theorem isFilled (h : e.compositor.Exhibits o camera e.shown) :
    e.compositor.hardware.plane.IsFilled := by
  intro slot a ha
  have hslot := h.shows slot
  cases hregion : e.compositor.region? slot with
  | none =>
    obtain ⟨-, hview⟩ := hslot.of_none hregion
    exact nomatch ha.symm.trans (congrArg SlotView.attachment hview)
  | some region =>
    obtain ⟨b, hview, -, hplacement, hshown, hpixels⟩ := hslot.of_some hregion
    have hattached : e.compositor.hardware.plane.attached? slot = some b :=
      congrArg SlotView.attachment hview
    obtain rfl := Option.some.inj (hattached.symm.trans ha)
    cases hpublished : e.shown slot with
    | none =>
      rw [hpublished] at hpixels
      exact .inl hpixels
    | some canvas =>
      rw [hpublished] at hpixels
      refine .inr ?_
      rw [hpixels, Option.elim_some, o.length_apply, hshown canvas hpublished, hplacement]
      rfl

/-- The rendered plane shows at the mirror image of a pixel what the natural picture shows there. -/
theorem pixelAt_render (h : e.compositor.Exhibits o camera e.shown)
    (hwidth : camera.width ≤ Rect.maxCoordinate) (hheight : camera.height ≤ Rect.maxCoordinate)
    (hx : x < camera.width) (hy : y < camera.height) :
    pixelAt canvasDepth camera.width (e.compositor.hardware.plane.render camera)
        (mirror o.horizontal camera.width x) (mirror o.vertical camera.height y) =
      e.naturalPixel x y := by
  have hfilled := isFilled h
  have hpixel := pixel?_eq_some_iff h hwidth hheight hx hy
  have hcolumn := mirror_lt o.horizontal hx
  have hrow := mirror_lt o.vertical hy
  have hbare : ∀ id, e.pixel? x y id = none → ∀ a,
      e.compositor.hardware.plane.attached? id = some a →
      ¬a.Covers camera (mirror o.horizontal camera.width x)
        (mirror o.vertical camera.height y) := by
    intro id hnone a ha hcovers
    have hsome := (hpixel id _).mpr ⟨a, ha, hcovers, rfl⟩
    rw [hnone] at hsome
    cases hsome
  have hpast : ∀ id, regionLimit ≤ id → e.pixel? x y id = none := by
    intro id hid
    rw [pixel?, region?_of_le e.compositor hid, Option.bind_none]
  unfold naturalPixel
  cases hfind : (List.range regionLimit).reverse.findSome? (e.pixel? x y) with
  | none =>
    have hnone := findSome?_reverse_range_eq_none.mp hfind
    refine Plane.pixelAt_render_of_bare hfilled h.ordered ?_ hcolumn hrow
    intro id
    apply hbare id
    by_cases hid : id < regionLimit
    · exact hnone id hid
    · exact hpast id (Nat.not_lt.mp hid)
  | some pixel =>
    obtain ⟨id, -, hsome, hlast⟩ := findSome?_reverse_range_eq_some.mp hfind
    obtain ⟨a, ha, hcovers, hpixel⟩ := (hpixel id pixel).mp hsome
    rw [Plane.pixelAt_render_of_top hfilled h.ordered ha hcovers ?_ hcolumn hrow, hpixel]
    · rfl
    · intro other b hother
      apply hbare other
      by_cases hid : other < regionLimit
      · exact hlast other hother hid
      · exact hpast other (Nat.not_lt.mp hid)

/-- The plane shows the mirror image of the natural picture: after any requests to a compositor to
which one camera was bound, the rendered plane has the size of the picture, and each of its pixels
is the one of the natural picture whose mirror image it is. -/
theorem render_eq_naturalPicture (o : Orientation) (camera : Size)
    (hwidth : camera.width ≤ Rect.maxCoordinate) (hheight : camera.height ≤ Rect.maxCoordinate)
    (earlier later : List Request) (hearlier : ∀ size, .bind size ∉ earlier)
    (hlater : ∀ size, .bind size ∉ later) :
    let e := (start o).performAll (earlier ++ .bind camera :: later)
    let picture := e.compositor.hardware.plane.render camera
    e.compositor = (Compositor.new o .healthy).performAll (earlier ++ .bind camera :: later) ∧
    picture.length = camera.height * (camera.width * canvasDepth) ∧
    ∀ x < camera.width, ∀ y < camera.height,
      pixelAt canvasDepth camera.width picture
          (mirror o.horizontal camera.width x) (mirror o.vertical camera.height y) =
        e.naturalPixel x y := by
  intro e picture
  have hexhibits : e.compositor.Exhibits o camera e.shown := by
    have hrun : e = ((start o).perform (.bind camera)).performAll later := by
      simp only [e]
      rw [performAll_append, performAll_start o hearlier]
      rfl
    rw [hrun]
    exact exhibits_performAll (exhibits_bind o camera) hwidth hheight hlater
  refine ⟨compositor_performAll _ _, ?_, ?_⟩
  · exact Plane.length_render (isFilled hexhibits) hexhibits.ordered camera
  · intro x hx y hy
    exact pixelAt_render hexhibits hwidth hheight hx hy

/-- On a plane that is turned around, the first pixel of a canvas is shown in the opposite corner,
as it was when the canvas was published. -/
theorem render_eq_naturalPicture_turned :
    let requests : List Request := [.bind ⟨3, 2⟩, .add ⟨0, 0, 2, 1⟩ .bgra8888,
      .draw 0 0 [1, 2, 3, 4, 5, 6, 7, 8], .update 0, .draw 0 0 [9, 9, 9, 9]]
    let c := (Compositor.new ⟨true, true⟩ .healthy).performAll requests
    pixelAt canvasDepth 3 (c.hardware.plane.render ⟨3, 2⟩) 2 1 = [1, 2, 3, 4] := by
  intro requests c
  obtain ⟨hrun, -, hpixels⟩ := render_eq_naturalPicture ⟨true, true⟩ ⟨3, 2⟩ (by decide) (by decide)
    [] requests.tail (by simp) (by simp [requests])
  have hcompositor : c = ((start ⟨true, true⟩).performAll
      ([] ++ .bind ⟨3, 2⟩ :: requests.tail)).compositor := hrun.symm
  rw [hcompositor]
  calc
    _ = ((start ⟨true, true⟩).performAll ([] ++ .bind ⟨3, 2⟩ :: requests.tail)).naturalPixel 0 0 :=
      hpixels 0 (by decide) 0 (by decide)
    _ = [1, 2, 3, 4] := by decide +kernel

end Exhibition

end LiveCamera
