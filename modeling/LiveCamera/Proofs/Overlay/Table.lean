import LiveCamera.Proofs.Overlay.Requests

/-!
# The table of regions and the plane

The compositor keeps a table of regions beside the slots of the plane.  Requests change the two one
after the other, and a call of the hardware may fail in between.  Nevertheless they stay in step: a
slot is allocated just when it is attached.  From this it follows that the plane never refuses a
call by itself, so every failure of the hardware that a request reports is one that was made to
happen.

`Outcome` collects what is known of the answer to a request.  It is proved for each change of a
slot, and composes along requests that make several changes.
-/

namespace LiveCamera

namespace Compositor

/-! ## Slots in step -/

/-- The table and the plane agree on a slot: it is allocated just when it is attached, and attached
at the place that is recorded for the region, with a canvas of its size. -/
structure SlotView.InStep (slot : Nat) (v : SlotView) : Prop where
  placement : v.attachment.map Attachment.placement = v.region.map Region.placement
  id : ∀ region, v.region = some region → region.id = slot
  canvas : ∀ region, v.region = some region →
    region.canvas.length = Region.canvasLength region.rect
  area : ∀ region, v.region = some region → region.placement.area = region.rect.area

/-- The table and the plane agree on every slot. -/
def InStep (c : Compositor) : Prop := ∀ slot, (c.view slot).InStep slot

variable {c after last : Compositor} {slot id : Nat} {region : Region} {rect : Rect}
  {format : PixelFormat} {camera : Size} {color : Color} {view : SlotView}

theorem SlotView.inStep_free (slot : Nat) : SlotView.InStep slot ⟨none, none⟩ where
  placement := rfl
  id _ h := nomatch h
  canvas _ h := nomatch h
  area _ h := nomatch h

theorem SlotView.InStep.of_some {a : Attachment} (hplacement : a.placement = region.placement)
    (hid : region.id = slot) (hcanvas : region.canvas.length = Region.canvasLength region.rect)
    (harea : region.placement.area = region.rect.area) :
    SlotView.InStep slot ⟨some region, some a⟩ where
  placement := congrArg some hplacement
  id _ h := Option.some.inj h ▸ hid
  canvas _ h := Option.some.inj h ▸ hcanvas
  area _ h := Option.some.inj h ▸ harea

theorem SlotView.InStep.eq_of_free (h : view.InStep slot) (hfree : view.region = none) :
    view = ⟨none, none⟩ := by
  have hplacement := h.placement
  rw [hfree, Option.map_none, Option.map_eq_none_iff] at hplacement
  obtain ⟨_, _⟩ := view
  rw [SlotView.mk.injEq]
  exact ⟨hfree, hplacement⟩

theorem SlotView.InStep.exists_attachment (h : view.InStep slot)
    (hregion : view.region = some region) :
    ∃ a, view = ⟨some region, some a⟩ ∧ a.placement = region.placement := by
  have hplacement := h.placement
  rw [hregion, Option.map_some, Option.map_eq_some_iff] at hplacement
  obtain ⟨a, ha, hplace⟩ := hplacement
  obtain ⟨_, _⟩ := view
  refine ⟨a, ?_, hplace⟩
  rw [SlotView.mk.injEq]
  exact ⟨hregion, ha⟩

theorem InStep.view_of_free (h : c.InStep) (hfree : c.region? slot = none) :
    c.view slot = ⟨none, none⟩ :=
  (h slot).eq_of_free hfree

theorem InStep.sets (h : c.InStep) (hsets : c.Sets slot view after) (hnew : view.InStep slot) :
    after.InStep := by
  intro other
  rw [hsets.view]
  split_ifs with hother
  · exact hother ▸ hnew
  · exact h other

theorem InStep.bindCamera (h : c.InStep) (size : Size) : (c.bindCamera size).InStep := h

theorem inStep_new (o : Orientation) (attaching committing detaching : Verdicts) :
    (new o ⟨.empty, attaching, committing, detaching⟩).InStep := by
  intro slot
  have hfree : (new o ⟨.empty, attaching, committing, detaching⟩).view slot = ⟨none, none⟩ := by
    simp only [Compositor.view, region?, new, Vector.getElem?_replicate]
    split_ifs <;> rfl
  rw [hfree]
  exact SlotView.inStep_free slot

/-! ## Outcomes of requests -/

/-- Which regions a request may free, by slot and purpose. -/
abbrev Freed := Nat → RegionPurpose → Prop

/-- Every region is there still, at its place and for its purpose, unless it may be freed. -/
def Keeps (c : Compositor) (freed : Freed) (after : Compositor) : Prop :=
  ∀ slot region, c.region? slot = some region → freed slot region.purpose ∨
    ∃ now, after.region? slot = some now ∧ now.rect = region.rect ∧ now.purpose = region.purpose

theorem keeps_refl (c : Compositor) (freed : Freed) : c.Keeps freed c :=
  fun _ region hregion ↦ .inr ⟨region, hregion, rfl, rfl⟩

variable {freed wider : Freed}

theorem Keeps.mono (h : c.Keeps freed after)
    (hwider : ∀ slot region, c.region? slot = some region → freed slot region.purpose →
      wider slot region.purpose) : c.Keeps wider after :=
  fun slot region hregion ↦ (h slot region hregion).imp_left (hwider slot region hregion)

theorem Keeps.trans (h : c.Keeps freed after) (hlast : after.Keeps freed last) :
    c.Keeps freed last := by
  intro slot region hregion
  rcases h slot region hregion with hfreed | ⟨between, hbetween, hrect, hpurpose⟩
  · exact .inl hfreed
  · rcases hlast slot between hbetween with hfreed | ⟨now, hnow, hrect', hpurpose'⟩
    · exact .inl (hpurpose ▸ hfreed)
    · exact .inr ⟨now, hnow, hrect'.trans hrect, hpurpose'.trans hpurpose⟩

/-- What is known of the answer to a request, whatever calls of the hardware were made to fail. -/
structure Outcome (c : Compositor) (freed : Freed) (answer : Except Failure Unit × Compositor) :
    Prop where
  inStep : answer.2.InStep
  continues : c.Continues answer.2
  /-- What the plane reports was made to happen. -/
  honest : ∀ cause, answer.1 = .error cause → cause.isPlaneRefusal = true →
    some cause ∈ c.hardware.verdicts
  keeps : c.Keeps freed answer.2

variable {answer : Except Failure Unit × Compositor}

/-- A request that changes nothing. -/
theorem InStep.outcome (h : c.InStep) (freed : Freed) {result : Except Failure Unit}
    (hhonest : ∀ cause, result = .error cause → cause.isPlaneRefusal = false) :
    c.Outcome freed (result, c) where
  inStep := h
  continues := .refl c
  honest cause hcause hrefusal := by
    rw [hhonest cause hcause] at hrefusal
    cases hrefusal
  keeps := c.keeps_refl freed

/-- A request that changes one slot. -/
theorem InStep.outcome_of_sets (h : c.InStep) (hsets : c.Sets slot view answer.2)
    (hview : view.InStep slot)
    (hhonest : ∀ cause, answer.1 = .error cause → cause.isPlaneRefusal = true →
      some cause ∈ c.hardware.verdicts)
    (hkept : ∀ region, c.region? slot = some region → freed slot region.purpose ∨
      ∃ now, view.region = some now ∧ now.rect = region.rect ∧ now.purpose = region.purpose) :
    c.Outcome freed answer where
  inStep := h.sets hsets hview
  continues := hsets.continues
  honest := hhonest
  keeps other region hregion := by
    have hregions : answer.2.region? other =
        if other = slot then view.region else c.region? other := by
      have hview := congrArg SlotView.region (hsets.view other)
      rwa [apply_ite SlotView.region] at hview
    rw [hregions]
    split_ifs with hother
    · subst hother
      exact hkept region hregion
    · exact .inr ⟨region, hregion, rfl, rfl⟩

/-- A request that makes one call of the hardware. -/
theorem InStep.outcome_of_puts (h : c.InStep) {verdict : Option Failure}
    (hputs : c.Puts slot view verdict answer) (hview : view.InStep slot)
    (hkept : ∀ region, c.region? slot = some region → freed slot region.purpose ∨
      ∃ now, view.region = some now ∧ now.rect = region.rect ∧ now.purpose = region.purpose) :
    c.Outcome freed answer := by
  cases verdict with
  | none =>
    obtain ⟨hresult, hsets⟩ := hputs.ok
    refine h.outcome_of_sets hsets hview ?_ hkept
    intro cause hcause
    rw [hresult] at hcause
    cases hcause
  | some failure =>
    obtain ⟨hresult, hmem, hsets⟩ := hputs.error
    refine h.outcome_of_sets hsets (h slot) ?_ ?_
    · intro cause hcause hrefusal
      rw [hresult] at hcause
      cases hcause
      exact hmem
    · intro region hregion
      exact .inr ⟨region, hregion, rfl, rfl⟩

theorem Outcome.mono (h : c.Outcome freed answer)
    (hwider : ∀ slot region, c.region? slot = some region → freed slot region.purpose →
      wider slot region.purpose) : c.Outcome wider answer :=
  { h with keeps := h.keeps.mono hwider }

/-- The outcome of one operation after another. -/
theorem Outcome.andThen (h : c.Outcome freed answer)
    {next : Compositor → Except Failure Unit × Compositor}
    (hnext : answer.1 = .ok () → answer.2.Outcome freed (next answer.2)) :
    c.Outcome freed (andThen answer next) := by
  cases hresult : answer.1 with
  | error cause =>
    rw [andThen_of_error hresult]
    exact h
  | ok =>
    rw [andThen_of_ok hresult]
    have hlast := hnext hresult
    refine ⟨hlast.inStep, h.continues.trans hlast.continues, ?_, h.keeps.trans hlast.keeps⟩
    intro cause hcause hrefusal
    exact h.continues.verdicts (hlast.honest cause hcause hrefusal)

/-! ## Changes of single slots -/

theorem isPlaneRefusal_of_validate {cause : Failure}
    (h : c.validate rect format = .error cause) : cause.isPlaneRefusal = false := by
  cases hcamera : c.camera with
  | none =>
    rw [validate_of_unbound hcamera] at h
    cases h
    rfl
  | some camera =>
    rw [validate_of_bound hcamera] at h
    split_ifs at h
    all_goals
      cases h
      rfl

/-- Writing on a canvas leaves its slot in step. -/
theorem sets_canvas (h : (c.view slot).InStep slot) (hregion : c.region? slot = some region)
    {canvas : Bytes} (hcanvas : canvas.length = region.canvas.length) :
    ∃ view : SlotView, c.Sets slot view (c.setSlot slot (some { region with canvas })) ∧
      view.InStep slot ∧ view.region = some { region with canvas } := by
  obtain ⟨a, hview, hplacement⟩ := h.exists_attachment hregion
  have hsets := sets_setSlot c (lt_of_region?_eq_some hregion) (some { region with canvas })
  rw [hview] at h hsets
  exact ⟨_, hsets, .of_some hplacement (h.id region rfl) (hcanvas.trans (h.canvas region rfl))
    (h.area region rfl), rfl⟩

/-- Publishing a canvas leaves its slot in step. -/
theorem puts_published (h : (c.view slot).InStep slot) (hregion : c.region? slot = some region) :
    ∃ view : SlotView, c.Puts slot view c.hardware.committing.next (c.updateRegion slot) ∧
      view.InStep slot ∧ view.region = some region := by
  obtain ⟨a, hview, hplacement⟩ := h.exists_attachment hregion
  rw [hview] at h
  have hpublished : region.published.length = a.placement.area * canvasDepth := by
    rw [Region.length_published, h.canvas region rfl, hplacement, h.area region rfl]
    rfl
  exact ⟨_, puts_updateRegion hview hpublished, .of_some hplacement (h.id region rfl)
    (h.canvas region rfl) (h.area region rfl), rfl⟩

theorem InStep.outcome_setSlot (h : c.InStep) (hregion : c.region? slot = some region)
    {canvas : Bytes} (hcanvas : canvas.length = region.canvas.length) (freed : Freed) :
    c.Outcome freed (.ok (), c.setSlot slot (some { region with canvas })) := by
  obtain ⟨view, hsets, hview, hafter⟩ := sets_canvas (h slot) hregion hcanvas
  refine h.outcome_of_sets hsets hview ?_ ?_
  · intro cause hcause
    cases hcause
  · intro before hbefore
    obtain rfl := Option.some.inj (hregion.symm.trans hbefore)
    exact .inr ⟨{ region with canvas }, hafter, rfl, rfl⟩

theorem InStep.outcome_allocateAt (h : c.InStep) (hslot : slot < regionLimit)
    (hfree : c.region? slot = none) (purpose : RegionPurpose) (freed : Freed) :
    c.Outcome freed (c.allocateAt slot rect format purpose) := by
  cases hvalid : c.validate rect format with
  | error cause =>
    rw [allocateAt_of_error hvalid]
    refine h.outcome freed ?_
    intro failure hfailure
    cases hfailure
    exact isPlaneRefusal_of_validate hvalid
  | ok camera =>
    have hputs := puts_allocateAt purpose hvalid hslot (h.view_of_free hfree)
    refine h.outcome_of_puts hputs (.of_some rfl rfl (Region.length_blank ..) rfl) ?_
    intro region hregion
    rw [hfree] at hregion
    cases hregion

theorem InStep.outcome_updateRegion (h : c.InStep) (id : Nat) (freed : Freed) :
    c.Outcome freed (c.updateRegion id) := by
  cases hregion : c.region? id with
  | none =>
    have hrefused : c.updateRegion id = (.error (.regionNotAllocated id), c) := by
      simp only [updateRegion, hregion]
    rw [hrefused]
    refine h.outcome freed ?_
    intro cause hcause
    cases hcause
    rfl
  | some region =>
    obtain ⟨view, hputs, hview, hafter⟩ := puts_published (h id) hregion
    refine h.outcome_of_puts hputs hview ?_
    intro before hbefore
    obtain rfl := Option.some.inj (hregion.symm.trans hbefore)
    exact .inr ⟨region, hafter, rfl, rfl⟩

theorem InStep.outcome_deleteRegion (h : c.InStep) (id : Nat)
    (hfreed : ∀ purpose, freed id purpose) : c.Outcome freed (c.deleteRegion id) := by
  by_cases hrange : id < regionLimit
  · cases hregion : c.region? id with
    | none =>
      rw [deleteRegion_of_free hrange hregion]
      refine h.outcome freed ?_
      intro cause hcause
      cases hcause
    | some region =>
      refine h.outcome_of_puts (puts_deleteRegion hregion) (SlotView.inStep_free id) ?_
      intro before _
      exact .inl (hfreed before.purpose)
  · rw [deleteRegion_of_le (Nat.not_lt.mp hrange)]
    refine h.outcome freed ?_
    intro cause hcause
    cases hcause
    rfl

/-! ## Changes of several slots -/

theorem InStep.outcome_deleteRegions (h : c.InStep) {ids : List Nat}
    (hfreed : ∀ id ∈ ids, ∀ purpose, freed id purpose) :
    c.Outcome freed (c.deleteRegions ids) := by
  induction ids generalizing c with
  | nil =>
    refine h.outcome freed ?_
    intro cause hcause
    cases hcause
  | cons id rest ih =>
    rw [deleteRegions_cons]
    have hfirst := h.outcome_deleteRegion id (hfreed id List.mem_cons_self)
    apply hfirst.andThen
    intro _
    exact ih hfirst.inStep fun other hother ↦ hfreed other (List.mem_cons_of_mem id hother)

/-- Painting a strip leaves its slot in step, with nothing but a strip in it, and fails only if a
call was made to fail. -/
theorem sets_paintStrip (color : Color) {strip : Rect}
    (hvalid : c.validate strip .bgra8888 = .ok camera)
    (hslot : slot < regionLimit) (hfree : c.view slot = ⟨none, none⟩) :
    ∃ view : SlotView, c.Sets slot view (c.paintStrip color slot strip).2 ∧ view.InStep slot ∧
      (∀ region, view.region = some region → region.purpose = .rectangle) ∧
      ∀ cause, (c.paintStrip color slot strip).1 = .error cause →
        some cause ∈ c.hardware.verdicts := by
  have hcanvas : ∀ placement, ((Region.blank slot strip placement .bgra8888 .rectangle
      c.orientation).filled color).canvas.length = Region.canvasLength strip :=
    fun _ ↦ (Region.length_filled ..).trans (Region.length_blank ..)
  have hpurpose : ∀ region, some ((Region.blank slot strip (c.orientation.place strip camera)
      .bgra8888 .rectangle c.orientation).filled color) = some region →
      region.purpose = .rectangle := by
    rintro region ⟨⟩
    rfl
  rcases paintStrip_cases color hvalid hslot hfree with
    ⟨cause, view, hresult, hmem, hview, hsets⟩ | ⟨hresult, hsets⟩
  · have hfailed : ∀ failure, (c.paintStrip color slot strip).1 = .error failure →
        some failure ∈ c.hardware.verdicts := by
      intro failure hfailure
      rw [hresult] at hfailure
      cases hfailure
      exact hmem
    rcases hview with rfl | rfl
    · refine ⟨_, hsets, SlotView.inStep_free slot, ?_, hfailed⟩
      rintro region ⟨⟩
    · exact ⟨_, hsets, .of_some rfl rfl (hcanvas _) rfl, hpurpose, hfailed⟩
  · refine ⟨_, hsets, .of_some rfl rfl (hcanvas _) rfl, hpurpose, ?_⟩
    intro failure hfailure
    rw [hresult] at hfailure
    cases hfailure

/-- Painting a strip changes its slot only. -/
theorem InStep.outcome_paintStrip (h : c.InStep) (hslot : slot < regionLimit)
    (hfree : c.region? slot = none) (color : Color) (strip : Rect) (freed : Freed) :
    c.Outcome freed (c.paintStrip color slot strip) ∧
      ∀ other ≠ slot, (c.paintStrip color slot strip).2.region? other = c.region? other := by
  cases hvalid : c.validate strip .bgra8888 with
  | error cause =>
    rw [paintStrip_of_error hvalid]
    refine ⟨h.outcome freed ?_, fun _ _ ↦ rfl⟩
    intro failure hfailure
    cases hfailure
    exact isPlaneRefusal_of_validate hvalid
  | ok camera =>
    obtain ⟨view, hsets, hview, -, hhonest⟩ :=
      sets_paintStrip color hvalid hslot (h.view_of_free hfree)
    refine ⟨h.outcome_of_sets hsets hview (fun cause hcause _ ↦ hhonest cause hcause) ?_,
      fun other hother ↦ congrArg SlotView.region (hsets.view_of_ne hother)⟩
    intro region hregion
    rw [hfree] at hregion
    cases hregion

theorem InStep.outcome_paintStrips (h : c.InStep) {strips : List Rect}
    (hroom : slot + strips.length ≤ regionLimit)
    (hfree : ∀ other, slot ≤ other → other < slot + strips.length → c.region? other = none)
    (color : Color) (freed : Freed) : c.Outcome freed (c.paintStrips color slot strips) := by
  induction strips generalizing c slot with
  | nil =>
    refine h.outcome freed ?_
    intro cause hcause
    cases hcause
  | cons strip rest ih =>
    rw [List.length_cons] at hroom hfree
    rw [paintStrips_cons]
    obtain ⟨hfirst, hothers⟩ := h.outcome_paintStrip (show slot < regionLimit by omega)
      (hfree slot (Nat.le_refl _) (by omega)) color strip freed
    apply hfirst.andThen
    intro _
    refine ih hfirst.inStep (by omega) ?_
    intro other hlow hhigh
    rw [hothers other (by omega)]
    exact hfree other (by omega) (by omega)

/-! ## Requests -/

/-- The regions that a request may free: a deletion the one in its slot, clearing all of them, and
drawing a rectangle those of earlier rectangles. -/
def Request.frees : Request → Freed
  | .delete id => fun slot _ ↦ slot = id
  | .clear => fun _ _ ↦ True
  | .rectangle .. => fun _ purpose ↦ purpose = .rectangle
  | _ => fun _ _ ↦ False

theorem InStep.outcome_drawRect (h : c.InStep) (id : Nat) (x y w h' : Int) (color : Color)
    (thickness : Int) : c.Outcome (fun _ purpose ↦ purpose = .rectangle)
      (c.drawRect id x y w h' color thickness) := by
  rcases drawRect_cases c id x y w h' color thickness with
    ⟨cause, hcause, hdraw⟩ | ⟨camera, -, hroom, -, hpurposes, hdraw⟩
  · rw [hdraw]
    refine h.outcome _ ?_
    intro failure hfailure
    cases hfailure
    rcases hcause with hrefusal | ⟨-, rfl⟩
    · exact Failure.isPlaneRefusal_of_isRefusal hrefusal
    · rfl
  · rw [hdraw]
    have hdeleted : c.Outcome (fun slot _ ↦ slot ∈ rectangleRange id)
        (c.deleteRegions (rectangleRange id)) :=
      h.outcome_deleteRegions fun _ hslot _ ↦ hslot
    refine (hdeleted.mono ?_).andThen ?_
    · intro slot region hregion hslot
      exact hpurposes slot hslot region hregion
    · intro hok
      have hstrips := length_borderStrips (Rect.clamp x y w h' camera) thickness
      refine hdeleted.inStep.outcome_paintStrips (by omega) ?_ color _
      intro slot hlow hhigh
      apply region?_deleteRegions_of_mem (fun slot _ ↦ h.view_of_free) hok
      exact mem_rectangleRange.mpr ⟨hlow, by omega⟩

theorem InStep.outcome_addRegion (h : c.InStep) (rect : Rect) (format : PixelFormat)
    (freed : Freed) : c.Outcome freed
      ((c.addRegion rect format).1.map fun _ ↦ (), (c.addRegion rect format).2) := by
  rcases addRegion_cases c rect format with ⟨cause, hcause, hadd⟩ |
    ⟨camera, -, ⟨-, hadd⟩ | ⟨slot, hslot, hfree, -, hadd⟩⟩
  · rw [hadd]
    refine h.outcome freed ?_
    intro failure hfailure
    cases hfailure
    exact isPlaneRefusal_of_validate hcause
  · rw [hadd]
    refine h.outcome freed ?_
    intro failure hfailure
    cases hfailure
    rfl
  · rw [hadd]
    have hallocate : c.Outcome freed (c.allocateAt slot rect format .plain) :=
      h.outcome_allocateAt hslot hfree .plain freed
    generalize c.allocateAt slot rect format .plain = answer at hallocate
    obtain ⟨_ | _, after⟩ := answer <;> exact hallocate

/-- Every request but the binding of a camera leaves the picture alone, and all of them leave the
table and the plane in step. -/
theorem InStep.outcome_perform (h : c.InStep) {request : Request}
    (hbind : ∀ size, request ≠ .bind size) : c.Outcome request.frees (c.perform request) := by
  cases request with
  | bind size => exact absurd rfl (hbind size)
  | add rect format => exact h.outcome_addRegion rect format _
  | take id =>
    simp only [perform, takeCanvas]
    cases hregion : c.region? id with
    | none =>
      refine h.outcome _ ?_
      intro cause hcause
      cases hcause
      rfl
    | some region => exact h.outcome_setSlot hregion (Region.length_erased region) _
  | draw id offset pixels =>
    simp only [perform, drawOn]
    cases hregion : c.region? id with
    | none =>
      refine h.outcome _ ?_
      intro cause hcause
      cases hcause
    | some region =>
      exact h.outcome_setSlot hregion (Region.length_overwritten region offset pixels) _
  | update id => exact h.outcome_updateRegion id _
  | delete id => exact h.outcome_deleteRegion id fun _ ↦ rfl
  | clear => exact h.outcome_deleteRegions fun _ _ _ ↦ trivial
  | rectangle id x y w h' color thickness => exact h.outcome_drawRect id x y w h' color thickness

/-! ## Runs -/

/-- What several requests leave: a camera may be bound among them, and the rest stays as after one
request. -/
structure Carries (c : Compositor) (freed : Freed) (after : Compositor) : Prop where
  inStep : after.InStep
  orientation : after.orientation = c.orientation
  verdicts : after.hardware.verdicts ⊆ c.hardware.verdicts
  ordered : c.hardware.plane.Ordered → after.hardware.plane.Ordered
  keeps : c.Keeps freed after

theorem Carries.mono (h : c.Carries freed after)
    (hwider : ∀ slot region, c.region? slot = some region → freed slot region.purpose →
      wider slot region.purpose) : c.Carries wider after :=
  { h with keeps := h.keeps.mono hwider }

theorem Carries.trans (h : c.Carries freed after) (hlast : after.Carries freed last) :
    c.Carries freed last where
  inStep := hlast.inStep
  orientation := hlast.orientation.trans h.orientation
  verdicts := List.Subset.trans hlast.verdicts h.verdicts
  ordered hordered := hlast.ordered (h.ordered hordered)
  keeps := h.keeps.trans hlast.keeps

theorem InStep.perform (h : c.InStep) (request : Request) :
    c.Carries request.frees (c.perform request).2 := by
  by_cases hbind : ∃ size, request = .bind size
  · obtain ⟨size, rfl⟩ := hbind
    exact ⟨h.bindCamera size, rfl, List.Subset.refl _, id, c.keeps_refl _⟩
  · have houtcome := h.outcome_perform (not_exists.mp hbind)
    exact ⟨houtcome.inStep, houtcome.continues.orientation, houtcome.continues.verdicts,
      houtcome.continues.ordered, houtcome.keeps⟩

/-- A run leaves the table and the plane in step, and keeps every region that none of its requests
may free. -/
theorem InStep.performAll (h : c.InStep) (requests : List Request) :
    c.Carries (fun slot purpose ↦ ∃ request ∈ requests, request.frees slot purpose)
      (c.performAll requests) := by
  induction requests generalizing c with
  | nil => exact ⟨h, rfl, List.Subset.refl _, id, c.keeps_refl _⟩
  | cons request rest ih =>
    have hfirst := h.perform request
    refine (hfirst.mono ?_).trans ((ih hfirst.inStep).mono ?_)
    · intro slot region _ hfrees
      exact ⟨request, List.mem_cons_self, hfrees⟩
    · rintro slot region - ⟨later, hlater, hfrees⟩
      exact ⟨later, List.mem_cons_of_mem request hlater, hfrees⟩

/-- A new region takes the lowest free slot. -/
theorem InStep.of_addRegion_eq_ok (h : c.InStep)
    (hok : (c.addRegion rect format).1 = .ok id) :
    id < regionLimit ∧ c.region? id = none ∧ (∀ lower < id, c.region? lower ≠ none) ∧
      ∃ region, (c.addRegion rect format).2.region? id = some region ∧ region.rect = rect ∧
        region.purpose = .plain := by
  rcases addRegion_cases c rect format with ⟨cause, -, hadd⟩ |
    ⟨camera, hvalid, ⟨-, hadd⟩ | ⟨slot, hslot, hfree, hlower, hadd⟩⟩
  · rw [hadd] at hok
    cases hok
  · rw [hadd] at hok
    cases hok
  · have hputs := puts_allocateAt .plain hvalid hslot (h.view_of_free hfree)
    rw [hadd] at hok ⊢
    cases hverdict : c.hardware.attaching.next with
    | some cause =>
      rw [hverdict] at hputs
      obtain ⟨hresult, -, -⟩ := hputs.error
      rw [hresult] at hok
      cases hok
    | none =>
      rw [hverdict] at hputs
      obtain ⟨hresult, hsets⟩ := hputs.ok
      rw [hresult] at hok
      obtain rfl : slot = id := Except.ok.inj hok
      exact ⟨hslot, hfree, hlower, _, congrArg SlotView.region hsets.view_self, rfl, rfl⟩

/-- A region that can be shown finds a slot unless all are allocated. -/
theorem InStep.addRegion_eq_error_iff (h : c.InStep)
    (hvalid : c.validate rect format = .ok camera) (hattach : c.hardware.attaching.next = none) :
    (∃ cause, (c.addRegion rect format).1 = .error cause) ↔
      ∀ id < regionLimit, c.region? id ≠ none := by
  rcases addRegion_cases c rect format with ⟨cause, hcause, -⟩ |
    ⟨size, -, ⟨hfull, hadd⟩ | ⟨slot, hslot, hfree, -, hadd⟩⟩
  · rw [hvalid] at hcause
    cases hcause
  · rw [hadd]
    exact ⟨fun _ ↦ hfull, fun _ ↦ ⟨_, rfl⟩⟩
  · have hputs := puts_allocateAt .plain hvalid hslot (h.view_of_free hfree)
    rw [hattach] at hputs
    rw [hadd, hputs.ok.1]
    constructor
    · rintro ⟨cause, hcause⟩
      cases hcause
    · intro hfull
      exact absurd hfree (hfull slot hslot)

/-- After any requests, with any calls of the hardware made to fail, the table and the plane agree
on every slot and canvases have the size of their regions.  A request that comes next is not refused
by the plane, unless that very failure was still to be made to happen.  Regions are added at the
lowest free slot as long as there is one, and those of the application stay until they are
deleted. -/
theorem slots_in_step (o : Orientation) (attaching committing detaching : Verdicts)
    (requests : List Request) :
    let c := (new o ⟨.empty, attaching, committing, detaching⟩).performAll requests
    (∀ slot, (c.hardware.plane.attached? slot).map Attachment.placement =
      (c.region? slot).map Region.placement) ∧
    (∀ slot region, c.region? slot = some region →
      region.canvas.length = 4 * region.rect.w * region.rect.h) ∧
    (∀ (next : Request) cause, (c.perform next).1 = .error cause →
      cause.isPlaneRefusal = true → some cause ∈ c.hardware.verdicts) ∧
    c.hardware.verdicts ⊆ attaching ++ committing ++ detaching ∧
    (∀ rect format id, (c.addRegion rect format).1 = .ok id →
      id < regionLimit ∧ c.region? id = none ∧ (∀ lower < id, c.region? lower ≠ none) ∧
        ∃ region, (c.addRegion rect format).2.region? id = some region ∧ region.rect = rect ∧
          region.purpose = .plain) ∧
    (∀ rect camera, c.camera = some camera → rect.isEmpty = false → rect.fitsIn camera = true →
      c.hardware.attaching.next = none →
      ((∃ cause, (c.addRegion rect .bgra8888).1 = .error cause) ↔
        ∀ id < regionLimit, c.region? id ≠ none)) ∧
    (∀ slot region, c.region? slot = some region → region.purpose = .plain →
      ∀ later : List Request, (∀ request ∈ later, request ≠ .clear ∧ request ≠ .delete slot) →
        ∃ now, (c.performAll later).region? slot = some now ∧ now.id = region.id ∧
          now.rect = region.rect ∧ now.purpose = .plain) := by
  intro c
  have hcarried := (inStep_new o attaching committing detaching).performAll requests
  have hinStep : c.InStep := hcarried.inStep
  refine ⟨fun slot ↦ (hinStep slot).placement, ?_, ?_, hcarried.verdicts, ?_, ?_, ?_⟩
  · intro slot region hregion
    have hcanvas := (hinStep slot).canvas region hregion
    rw [hcanvas, Region.canvasLength, canvasDepth, Nat.mul_comm, Nat.mul_assoc]
  · intro next cause hcause
    refine (hinStep.outcome_perform ?_).honest cause hcause
    rintro size rfl
    cases hcause
  · intro rect format id
    exact hinStep.of_addRegion_eq_ok
  · intro rect camera hcamera hempty hfits
    exact hinStep.addRegion_eq_error_iff
      (validate_eq_ok_iff.mpr ⟨hcamera, rfl, hempty, hfits⟩)
  · intro slot region hregion hplain later hlater
    have hlast := hinStep.performAll later
    have hfrees : ¬∃ request ∈ later, request.frees slot region.purpose := by
      rintro ⟨request, hrequest, hfrees⟩
      obtain ⟨hclear, hdelete⟩ := hlater request hrequest
      rw [hplain] at hfrees
      cases request with
      | delete id => exact hdelete (congrArg Request.delete (Eq.symm hfrees))
      | clear => exact hclear rfl
      | rectangle => cases hfrees
      | _ => exact hfrees
    obtain ⟨now, hnow, hrect, hpurpose⟩ := (hlast.keeps slot region hregion).resolve_left hfrees
    have hid := (hlast.inStep slot).id now hnow
    exact ⟨now, hnow, hid.trans ((hinStep slot).id region hregion).symm, hrect,
      hpurpose.trans hplain⟩

/-- Redrawing a rectangle breaks off after the first of its strips was released; the slot is free
for the application, whose first region stays. -/
theorem slots_in_step_partly_released :
    let requests : List Request := [.bind ⟨8, 8⟩, .add ⟨0, 0, 2, 1⟩ .bgra8888,
      .rectangle 1 0 0 8 8 .red 1, .rectangle 1 0 0 4 4 .green 0]
    let c := (new .natural ⟨.empty, [], [], [none, some .databaseFailed]⟩).performAll requests
    c.allocated = [0, 2, 3, 4] ∧
      (c.addRegion ⟨0, 0, 1, 1⟩ .bgra8888).1 = .ok 1 ∧
      ((c.hardware.plane.attached? 2).map Attachment.placement =
        (c.region? 2).map Region.placement) ∧
      ∃ now, (c.performAll [.rectangle 4 0 0 2 2 .red 0]).region? 0 = some now ∧
        now.rect = ⟨0, 0, 2, 1⟩ := by
  intro requests c
  obtain ⟨hslots, -, -, -, -, -, hkept⟩ :=
    slots_in_step .natural [] [] [none, some .databaseFailed] requests
  have hregion : c.region? 0 =
      some ⟨0, ⟨0, 0, 2, 1⟩, ⟨0, 0, 2, 1⟩, .bgra8888, .plain, .natural, List.replicate 8 0⟩ := by
    decide +kernel
  obtain ⟨now, hnow, -, hrect, -⟩ := hkept 0 _ hregion rfl [.rectangle 4 0 0 2 2 .red 0] (by simp)
  exact ⟨by decide +kernel, by decide +kernel, hslots 2, now, hnow, hrect⟩

end Compositor

end LiveCamera
