import LiveCamera.Proofs.Overlay.Painting
import Mathlib.Data.List.Perm.Basic

/-!
# Rectangles that the hardware breaks off

Drawing a rectangle calls the hardware up to twelve times: earlier strips are detached, and new ones
attached and published.  When one of these calls fails the rest is left out, so the slots of the
rectangle may hold old strips, new ones, and one that was attached and never published.  `Redraws`
is what can be said of all these ways to end: nothing else has changed, and what is in the slots are
strips.  So the next rectangle replaces all of it.

What a compositor does next depends on its slots, its picture and the hardware only
(`eq_of_view_eq`).  The next rectangle therefore leaves the very compositor that it would have left
without the one that was broken off, which is `drawRect_recoverable`.
-/

namespace LiveCamera

namespace Plane

variable {p q : Plane} {s : Nat × Attachment}

theorem Ordered.nodup (h : p.Ordered) : p.slots.Nodup := by
  refine List.Pairwise.imp ?_ h
  rintro a _ hlt rfl
  exact Nat.lt_irrefl _ hlt

theorem Ordered.mem_iff (h : p.Ordered) : s ∈ p.slots ↔ p.attached? s.1 = some s.2 := by
  constructor
  · exact h.attached?_of_mem
  · intro hattached
    obtain ⟨before, rest, hslots, -⟩ := List.lookup_eq_some_iff.mp hattached
    rw [hslots]
    exact List.mem_append_right before List.mem_cons_self

/-- An ordered plane is known from what is attached to its slots. -/
theorem Ordered.eq_of_attached?_eq (hp : p.Ordered) (hq : q.Ordered)
    (h : ∀ slot, p.attached? slot = q.attached? slot) : p = q := by
  obtain ⟨slots⟩ := p
  obtain ⟨others⟩ := q
  have hperm : slots.Perm others := by
    rw [List.perm_ext_iff_of_nodup hp.nodup hq.nodup]
    intro s
    have hsame : (mk slots).attached? s.1 = some s.2 ↔ (mk others).attached? s.1 = some s.2 := by
      rw [h s.1]
    exact hp.mem_iff.trans (hsame.trans hq.mem_iff.symm)
  rw [mk.injEq]
  refine hperm.eq_of_pairwise ?_ hp hq
  intro s t _ _ hst hts
  exact absurd hst (Nat.lt_asymm hts)

end Plane

namespace Hardware

/-- The hardware once every call works. -/
def restored (h : Hardware) : Hardware :=
  { h with attaching := [], committing := [], detaching := [] }

theorem verdicts_restored (h : Hardware) : h.restored.verdicts = [] := rfl

/-- How many of the coming calls are made to fail. -/
def failures (h : Hardware) : Nat := h.verdicts.countP (·.isSome)

end Hardware

namespace Compositor

variable {c after other : Compositor} {slot id first last : Nat} {view : SlotView} {camera : Size}
  {answer : Except Failure Unit × Compositor}

/-- The compositor once every call of its hardware works. -/
def restored (c : Compositor) : Compositor := { c with hardware := c.hardware.restored }

theorem InStep.restored (h : c.InStep) : c.restored.InStep := h

/-- The table is known from its regions. -/
theorem slots_eq_of_region?_eq (h : ∀ slot, c.region? slot = other.region? slot) :
    c.slots = other.slots := by
  apply Vector.ext
  intro slot hslot
  have hregion := h slot
  rw [region?, region?, Vector.getElem?_eq_getElem hslot,
    Vector.getElem?_eq_getElem hslot] at hregion
  exact hregion

/-- A compositor is known from its slots, its picture and its orientation once every call of its
hardware works. -/
theorem eq_of_view_eq (hcamera : c.camera = other.camera)
    (horientation : c.orientation = other.orientation)
    (hverdicts : c.hardware.verdicts = []) (hverdicts' : other.hardware.verdicts = [])
    (hordered : c.hardware.plane.Ordered) (hordered' : other.hardware.plane.Ordered)
    (hview : ∀ slot, c.view slot = other.view slot) : c = other := by
  have hslots := slots_eq_of_region?_eq fun slot ↦ congrArg SlotView.region (hview slot)
  have hplane := hordered.eq_of_attached?_eq hordered' fun slot ↦
    congrArg SlotView.attachment (hview slot)
  obtain ⟨hattaching, hcommitting, hdetaching⟩ := Hardware.verdicts_eq_nil_iff.mp hverdicts
  obtain ⟨hattaching', hcommitting', hdetaching'⟩ := Hardware.verdicts_eq_nil_iff.mp hverdicts'
  obtain ⟨slots, size, orientation, plane, attaching, committing, detaching⟩ := c
  obtain ⟨slots', size', orientation', plane', attaching', committing', detaching'⟩ := other
  dsimp only at *
  subst_vars
  rfl

/-! ## What redrawing may do -/

/-- The slots from `first` up to `last` are redrawn.  That fails only if a call of the hardware was
made to fail, and whether or not it does, every other slot stays as it is and a region that is new
is a strip of a rectangle. -/
structure Redraws (first last : Nat) (c : Compositor) (answer : Except Failure Unit × Compositor) :
    Prop where
  inStep : answer.2.InStep
  continues : c.Continues answer.2
  failed : ∀ cause, answer.1 = .error cause → some cause ∈ c.hardware.verdicts
  outside : ∀ slot, slot < first ∨ last ≤ slot → answer.2.view slot = c.view slot
  inside : ∀ slot region, answer.2.region? slot = some region →
    region.purpose = .rectangle ∨ c.region? slot = some region

theorem InStep.redraws (h : c.InStep) (first last : Nat) : Redraws first last c (.ok (), c) where
  inStep := h
  continues := .refl c
  failed _ hcause := nomatch hcause
  outside _ _ := rfl
  inside _ _ hregion := .inr hregion

theorem Redraws.andThen (h : Redraws first last c answer)
    {next : Compositor → Except Failure Unit × Compositor}
    (hnext : answer.1 = .ok () → Redraws first last answer.2 (next answer.2)) :
    Redraws first last c (andThen answer next) := by
  cases hresult : answer.1 with
  | error cause =>
    rw [andThen_of_error hresult]
    exact h
  | ok =>
    rw [andThen_of_ok hresult]
    have hrest := hnext hresult
    refine ⟨hrest.inStep, h.continues.trans hrest.continues, ?_, ?_, ?_⟩
    · intro cause hcause
      exact h.continues.verdicts (hrest.failed cause hcause)
    · intro slot hslot
      rw [hrest.outside slot hslot, h.outside slot hslot]
    · intro slot region hregion
      rcases hrest.inside slot region hregion with hpurpose | hbetween
      · exact .inl hpurpose
      · exact h.inside slot region hbetween

/-- One slot is redrawn, or the call of the hardware for it fails. -/
theorem InStep.redraws_of_sets (h : c.InStep)
    (hfailed : ∀ cause, answer.1 = .error cause → some cause ∈ c.hardware.verdicts)
    (hsets : c.Sets slot view answer.2) (hnew : view.InStep slot) (hlow : first ≤ slot)
    (hhigh : slot < last)
    (hview : ∀ region, view.region = some region →
      region.purpose = .rectangle ∨ c.region? slot = some region) :
    Redraws first last c answer := by
  refine ⟨h.sets hsets hnew, hsets.continues, hfailed, ?_, ?_⟩
  · intro other hother
    exact hsets.view_of_ne (by omega)
  · intro other region hregion
    have hafter : (answer.2.view other).region = some region := hregion
    rw [hsets.view] at hafter
    split_ifs at hafter with hself
    · rw [hself]
      exact hview region hafter
    · exact .inr hafter

theorem InStep.redraws_deleteRegion (h : c.InStep) (hlow : first ≤ id) (hhigh : id < last)
    (hlast : last ≤ regionLimit) : Redraws first last c (c.deleteRegion id) := by
  cases hregion : c.region? id with
  | none =>
    rw [deleteRegion_of_free (by omega) hregion]
    exact h.redraws first last
  | some region =>
    have hputs := puts_deleteRegion hregion
    cases hverdict : c.hardware.detaching.next with
    | none =>
      rw [hverdict] at hputs
      obtain ⟨hresult, hsets⟩ := hputs.ok
      refine h.redraws_of_sets ?_ hsets (SlotView.inStep_free id) hlow hhigh
        fun _ hfree ↦ nomatch hfree
      intro cause hcause
      rw [hresult] at hcause
      cases hcause
    | some failure =>
      rw [hverdict] at hputs
      obtain ⟨hresult, hmem, hsets⟩ := hputs.error
      refine h.redraws_of_sets ?_ hsets (h id) hlow hhigh fun _ hkept ↦ .inr hkept
      intro cause hcause
      rw [hresult] at hcause
      cases hcause
      exact hmem

theorem InStep.redraws_deleteRegions (h : c.InStep) {ids : List Nat}
    (hids : ∀ id ∈ ids, first ≤ id ∧ id < last) (hlast : last ≤ regionLimit) :
    Redraws first last c (c.deleteRegions ids) := by
  induction ids generalizing c with
  | nil => exact h.redraws first last
  | cons id rest ih =>
    obtain ⟨hlow, hhigh⟩ := hids id List.mem_cons_self
    have hfirst := h.redraws_deleteRegion hlow hhigh hlast
    rw [deleteRegions_cons]
    exact hfirst.andThen fun _ ↦ ih hfirst.inStep
      fun other hother ↦ hids other (List.mem_cons_of_mem id hother)

/-- Painting strips into free slots; when it is broken off a slot is free still, or holds a strip
without having shown it. -/
theorem InStep.redraws_paintStrips (h : c.InStep) (hcamera : c.camera = some camera)
    {strips : List Rect} (hlow : first ≤ slot) (hroom : slot + strips.length ≤ last)
    (hlast : last ≤ regionLimit)
    (hfree : ∀ other, slot ≤ other → other < slot + strips.length → c.region? other = none)
    (color : Color)
    (hstrips : ∀ strip ∈ strips, strip.isEmpty = false ∧ strip.fitsIn camera = true) :
    Redraws first last c (c.paintStrips color slot strips) := by
  induction strips generalizing c slot with
  | nil => exact h.redraws first last
  | cons strip rest ih =>
    rw [List.length_cons] at hroom hfree
    have hself : c.region? slot = none := hfree slot (Nat.le_refl _) (by omega)
    have hvalid : c.validate strip .bgra8888 = .ok camera :=
      validate_eq_ok_iff.mpr ⟨hcamera, rfl, hstrips strip List.mem_cons_self⟩
    obtain ⟨view, hsets, hnew, hpurpose, hfailed⟩ :=
      sets_paintStrip color hvalid (show slot < regionLimit by omega) (h.view_of_free hself)
    have hfirst : Redraws first last c (c.paintStrip color slot strip) :=
      h.redraws_of_sets hfailed hsets hnew hlow (by omega)
        fun region hregion ↦ .inl (hpurpose region hregion)
    rw [paintStrips_cons]
    refine hfirst.andThen fun _ ↦ ih hfirst.inStep (hfirst.continues.camera.trans hcamera)
      (by omega) (by omega) ?_ fun other hother ↦ hstrips other (List.mem_cons_of_mem strip hother)
    intro other hother hhigh
    have hkept := congrArg SlotView.region (hsets.view_of_ne (show other ≠ slot by omega))
    exact hkept.trans (hfree other (by omega) (by omega))

/-- A rectangle is refused, which changes nothing, or it is drawn in its slots, none of which
belongs to the application. -/
theorem InStep.redraws_drawRect (h : c.InStep)
    (hbounds : ∀ camera, c.camera = some camera →
      camera.width ≤ Rect.maxCoordinate ∧ camera.height ≤ Rect.maxCoordinate)
    (id : Nat) (x y w h' : Int) (color : Color) (thickness : Int) :
    (∃ cause, (cause.isRefusal = true ∨
        wordSize ≤ id + rectangleSlots ∧ cause = .rangeOverflow id) ∧
      c.drawRect id x y w h' color thickness = (.error cause, c)) ∨
    id + rectangleSlots ≤ regionLimit ∧
      (∀ slot region, id ≤ slot → slot < id + rectangleSlots → c.region? slot = some region →
        region.purpose = .rectangle) ∧
      Redraws id (id + rectangleSlots) c (c.drawRect id x y w h' color thickness) := by
  rcases drawRect_cases c id x y w h' color thickness with
    hrefused | ⟨camera, hcamera, hroom, hempty, hpurposes, hdraw⟩
  · exact .inl hrefused
  · obtain ⟨hwidth, hheight⟩ := hbounds camera hcamera
    have hfits := Rect.fitsIn_clamp hwidth hheight x y w h'
    have hcount := length_borderStrips (Rect.clamp x y w h' camera) thickness
    refine .inr ⟨hroom, fun slot region hlow hhigh ↦
      hpurposes slot (mem_rectangleRange.mpr ⟨hlow, hhigh⟩) region, ?_⟩
    rw [hdraw]
    have hdeleted := h.redraws_deleteRegions (fun slot hslot ↦ mem_rectangleRange.mp hslot) hroom
    refine hdeleted.andThen fun hok ↦ ?_
    refine hdeleted.inStep.redraws_paintStrips (hdeleted.continues.camera.trans hcamera)
      (Nat.le_refl id) (by omega) hroom ?_ color
      fun strip hstrip ↦ fitsIn_of_mem_borderStrips hempty hfits hstrip
    intro slot hlow hhigh
    exact region?_deleteRegions_of_mem (fun other _ ↦ h.view_of_free) hok
      (mem_rectangleRange.mpr ⟨hlow, by omega⟩)

/-! ## The next rectangle -/

/-- A rectangle can be drawn from slot `id` on: every call of the hardware works, and none of its
slots belongs to the application. -/
structure Ready (camera : Size) (id : Nat) (c : Compositor) : Prop where
  inStep : c.InStep
  ordered : c.hardware.plane.Ordered
  verdicts : c.hardware.verdicts = []
  camera : c.camera = some camera
  unused : ∀ slot region, id ≤ slot → slot < id + rectangleSlots →
    c.region? slot = some region → region.purpose = .rectangle

/-- Compositors that differ in the slots of a rectangle only are the same once it is drawn. -/
theorem Ready.drawRect_eq (h : c.Ready camera id) (hother : other.Ready camera id)
    (horientation : c.orientation = other.orientation)
    (houtside : ∀ slot, slot < id ∨ id + rectangleSlots ≤ slot → c.view slot = other.view slot)
    (hwidth : camera.width ≤ Rect.maxCoordinate) (hheight : camera.height ≤ Rect.maxCoordinate)
    (hid : id + rectangleSlots ≤ regionLimit) {x y w h' : Int}
    (hempty : (Rect.clamp x y w h' camera).isEmpty = false) (color : Color) (thickness : Int) :
    (c.drawRect id x y w h' color thickness).1 = .ok () ∧
      c.drawRect id x y w h' color thickness = other.drawRect id x y w h' color thickness := by
  obtain ⟨hok, hpainted, hfree, hothers⟩ := drawRect_of_healthy h.inStep h.verdicts h.camera hwidth
    hheight hid h.unused hempty color thickness
  obtain ⟨hok', hpainted', hfree', hothers'⟩ := drawRect_of_healthy hother.inStep hother.verdicts
    hother.camera hwidth hheight hid hother.unused hempty color thickness
  have hkept := (h.inStep.outcome_drawRect id x y w h' color thickness).continues
  have hkept' := (hother.inStep.outcome_drawRect id x y w h' color thickness).continues
  refine ⟨hok, Prod.ext (hok.trans hok'.symm) (eq_of_view_eq ?_ ?_ ?_ ?_ ?_ ?_ ?_)⟩
  · rw [hkept.camera, hkept'.camera, h.camera, hother.camera]
  · rw [hkept.orientation, hkept'.orientation, horientation]
  · exact List.subset_nil.mp (h.verdicts ▸ hkept.verdicts)
  · exact List.subset_nil.mp (hother.verdicts ▸ hkept'.verdicts)
  · exact hkept.ordered h.ordered
  · exact hkept'.ordered hother.ordered
  · intro slot
    by_cases hslot : id ≤ slot ∧ slot < id + rectangleSlots
    · obtain ⟨hlow, hhigh⟩ := hslot
      cases hstrip : (borderStrips (Rect.clamp x y w h' camera) thickness)[slot - id]? with
      | some strip =>
        have hview := hpainted (slot - id) strip hstrip
        have hview' := hpainted' (slot - id) strip hstrip
        rw [Nat.add_sub_cancel' hlow] at hview hview'
        rw [hview, hview', horientation]
      | none =>
        have hpast := List.getElem?_eq_none_iff.mp hstrip
        rw [hfree slot (by omega) hhigh, hfree' slot (by omega) hhigh]
    · rw [hothers slot (by omega), hothers' slot (by omega), houtside slot (by omega)]

/-- A rectangle is drawn after any requests, and a call of the hardware that it makes fails.  No
other slot changes, in the table or on the plane, and those of the rectangle are free or hold
strips.  The next rectangle there, on hardware on which every call works, is drawn if a part of it
lies inside the picture, and leaves the same compositor as it would have without the one that
failed. -/
theorem drawRect_recoverable (o : Orientation) (attaching committing detaching : Verdicts)
    (requests : List Request) {camera : Size} {id : Nat}
    (hcamera : ((new o ⟨.empty, attaching, committing, detaching⟩).performAll requests).camera =
      some camera)
    (hwidth : camera.width ≤ Rect.maxCoordinate) (hheight : camera.height ≤ Rect.maxCoordinate)
    (hid : id + rectangleSlots ≤ regionLimit) (x y w h : Int) (color : Color) (thickness : Int)
    (hbroken : (((new o ⟨.empty, attaching, committing, detaching⟩).performAll requests).drawRect
        id x y w h color thickness).2.hardware.failures <
      ((new o ⟨.empty, attaching, committing, detaching⟩).performAll requests).hardware.failures) :
    let c := (new o ⟨.empty, attaching, committing, detaching⟩).performAll requests
    let broken := (c.drawRect id x y w h color thickness).2
    (∀ slot, slot < id ∨ id + rectangleSlots ≤ slot → broken.region? slot = c.region? slot ∧
      broken.hardware.plane.attached? slot = c.hardware.plane.attached? slot) ∧
    (∀ slot, id ≤ slot → slot < id + rectangleSlots → broken.region? slot = none ∨
      ∃ region, broken.region? slot = some region ∧ region.purpose = .rectangle) ∧
    ∀ (x y w h : Int) (color : Color) (thickness : Int),
      (Rect.clamp x y w h camera).isEmpty = false →
      let next := broken.restored.drawRect id x y w h color thickness
      next.1 = .ok () ∧ next = c.restored.drawRect id x y w h color thickness := by
  intro c broken
  have hcarried := (inStep_new o attaching committing detaching).performAll requests
  have hbounds : ∀ size, c.camera = some size →
      size.width ≤ Rect.maxCoordinate ∧ size.height ≤ Rect.maxCoordinate := by
    intro size hsize
    obtain rfl := Option.some.inj (hcamera.symm.trans hsize)
    exact ⟨hwidth, hheight⟩
  rcases hcarried.inStep.redraws_drawRect hbounds id x y w h color thickness with
    ⟨cause, -, hrefused⟩ | ⟨-, hunused, hredraws⟩
  -- A rectangle that is refused makes no call.
  · rw [hrefused] at hbroken
    exact absurd hbroken (Nat.lt_irrefl _)
  have hstrips : ∀ slot region, id ≤ slot → slot < id + rectangleSlots →
      broken.region? slot = some region → region.purpose = .rectangle := by
    intro slot region hlow hhigh hregion
    exact (hredraws.inside slot region hregion).elim (·) (hunused slot region hlow hhigh)
  refine ⟨?_, ?_, ?_⟩
  · intro slot hslot
    have hview := hredraws.outside slot hslot
    exact ⟨congrArg SlotView.region hview, congrArg SlotView.attachment hview⟩
  · intro slot hlow hhigh
    cases hregion : broken.region? slot with
    | none => exact .inl rfl
    | some region => exact .inr ⟨region, rfl, hstrips slot region hlow hhigh hregion⟩
  · intro x y w h color thickness hempty
    have hkept := hredraws.continues
    have hordered := hcarried.ordered Plane.ordered_empty
    have hready : c.restored.Ready camera id :=
      ⟨hcarried.inStep.restored, hordered, c.hardware.verdicts_restored, hcamera, hunused⟩
    have hready' : broken.restored.Ready camera id :=
      ⟨hredraws.inStep.restored, hkept.ordered hordered,
        broken.hardware.verdicts_restored, hkept.camera.trans hcamera, hstrips⟩
    exact hready'.drawRect_eq hready hkept.orientation hredraws.outside hwidth hheight hid hempty
      color thickness

/-- The border of a smaller rectangle is broken off when its second strip is published: the first
strip is shown, the second attached only.  The rectangle that comes next fills the picture. -/
theorem drawRect_recoverable_unpublished :
    let c := (new ⟨true, false⟩ ⟨.empty, [], [none, none, some .databaseFailed], []⟩).performAll
      [.bind ⟨8, 6⟩, .add ⟨0, 0, 2, 1⟩ .bgra8888, .rectangle 1 0 0 8 6 .red 0]
    let broken := (c.drawRect 1 1 1 6 5 .green 1).2
    let next := broken.restored.drawRect 1 (-2) 0 20 20 .blue 0
    broken.allocated = [0, 1, 2] ∧
      (broken.hardware.plane.attached? 2).map Attachment.commits = some 0 ∧
      next.1 = .ok () ∧ next = c.restored.drawRect 1 (-2) 0 20 20 .blue 0 := by
  intro c broken next
  obtain ⟨-, -, hnext⟩ := drawRect_recoverable ⟨true, false⟩ [] [none, none, some .databaseFailed]
    [] [.bind ⟨8, 6⟩, .add ⟨0, 0, 2, 1⟩ .bgra8888, .rectangle 1 0 0 8 6 .red 0]
    (show c.camera = some ⟨8, 6⟩ by decide +kernel) (by decide) (by decide)
    (show 1 + 4 ≤ 16 by decide) 1 1 6 5 .green 1 (by decide +kernel)
  obtain ⟨hok, heq⟩ := hnext (-2) 0 20 20 .blue 0 (by decide)
  exact ⟨by decide +kernel, by decide +kernel, hok, heq⟩

end Compositor

end LiveCamera
