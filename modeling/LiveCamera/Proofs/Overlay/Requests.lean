import LiveCamera.Proofs.Overlay.Raster
import LiveCamera.Proofs.Overlay.Rectangles
import LiveCamera.Proofs.Overlay.Slots

/-!
# Requests to a compositor

What a request does is put together from changes of single slots.  A request that touches several
slots stops at the first change that the hardware refuses, so each of its parts is described here
with every way in which it can end.
-/

namespace LiveCamera

/-- Whether a failure is one that the plane reports itself, when a call does not suit its slots. -/
def Failure.isPlaneRefusal : Failure → Bool
  | .slotAttached _ | .slotNotAttached _ | .canvasSize .. => true
  | _ => false

/-- Whether a failure refuses a request: something that it needs is missing, an argument is wrong, or
a slot belongs to the application. -/
def Failure.isRefusal : Failure → Bool
  | .regionInUse .. => true
  | cause => cause.kind == .notReady || cause.kind == .argument

theorem Failure.isPlaneRefusal_of_isRefusal {cause : Failure} (h : cause.isRefusal = true) :
    cause.isPlaneRefusal = false := by
  rw [Bool.eq_false_iff]
  intro hplane
  unfold isPlaneRefusal at hplane
  split at hplane
  case h_4 => cases hplane
  all_goals cases h

theorem Failure.kind_ne_crash_of_isRefusal {cause : Failure} (h : cause.isRefusal = true) :
    cause.kind ≠ .crash := by
  intro hcrash
  unfold isRefusal at h
  split at h
  · cases hcrash
  · rw [hcrash] at h
    cases h

namespace Region

variable (r : Region)

theorem length_blank (id : Nat) (rect placement : Rect) (format : PixelFormat)
    (purpose : RegionPurpose) (orientation : Orientation) :
    (blank id rect placement format purpose orientation).canvas.length = canvasLength rect :=
  List.length_replicate

theorem length_erased : r.erased.canvas.length = r.canvas.length :=
  List.length_replicate

theorem length_filled (color : Color) : (r.filled color).canvas.length = r.canvas.length := by
  have hpixels : ((List.replicate (r.canvas.length / canvasDepth) color.pixel).flatten).length =
      r.canvas.length / canvasDepth * canvasDepth := by
    rw [List.length_flatten, List.map_replicate, List.sum_replicate_nat, Color.length_pixel]
    rfl
  rw [filled, List.length_append, hpixels, List.length_drop]
  have hroom := Nat.div_mul_le_self r.canvas.length canvasDepth
  omega

theorem length_overwritten (offset : Nat) (pixels : Bytes) :
    ((Plane.overwrite r.canvas offset pixels).take r.canvas.length).length = r.canvas.length := by
  rw [List.length_take, Plane.overwrite, List.length_append, List.length_append,
    List.length_take, List.length_drop]
  omega

theorem length_published : r.published.length = r.canvas.length :=
  r.orientation.length_apply r.canvas r.rect.w r.rect.h canvasDepth

end Region

namespace Compositor

variable {c after : Compositor} {slot id : Nat} {region : Region} {rect strip : Rect}
  {format : PixelFormat} {camera : Size} {cause : Failure} {color : Color}

/-- A request to a compositor; a canvas that was handed out is written with `draw`. -/
inductive Request
  | bind (size : Size)
  | add (rect : Rect) (format : PixelFormat)
  | take (id : Nat)
  | draw (id offset : Nat) (pixels : Bytes)
  | update (id : Nat)
  | delete (id : Nat)
  | clear
  | rectangle (id : Nat) (x y w h : Int) (color : Color) (thickness : Int)
  deriving DecidableEq, Repr

/-- How a request ends, without the value that it answers with. -/
def perform (c : Compositor) : Request → Except Failure Unit × Compositor
  | .bind size => (.ok (), c.bindCamera size)
  | .add rect format =>
    ((c.addRegion rect format).1.map fun _ ↦ (), (c.addRegion rect format).2)
  | .take id => ((c.takeCanvas id).1.map fun _ ↦ (), (c.takeCanvas id).2)
  | .draw id offset pixels => (.ok (), c.drawOn id offset pixels)
  | .update id => c.updateRegion id
  | .delete id => c.deleteRegion id
  | .clear => c.clear
  | .rectangle id x y w h color thickness => c.drawRect id x y w h color thickness

/-- The compositor after several requests. -/
def performAll (c : Compositor) (requests : List Request) : Compositor :=
  requests.foldl (fun before request ↦ (before.perform request).2) c

/-! ## Checks -/

theorem requireCamera_of_bound (h : c.camera = some camera) : c.requireCamera = .ok camera := by
  simp only [requireCamera, h]

theorem validate_of_unbound (h : c.camera = none) (rect : Rect) (format : PixelFormat) :
    c.validate rect format = .error .noCameraForRegions := by
  simp only [validate, requireCamera, h, bind, Except.bind]

theorem validate_of_bound (h : c.camera = some camera) (rect : Rect) (format : PixelFormat) :
    c.validate rect format =
      if format ≠ .bgra8888 then .error (.regionFormat format)
      else if rect.isEmpty || !rect.fitsIn camera then .error (.regionOutside rect camera)
      else .ok camera := by
  simp only [validate, requireCamera, h, bind, Except.bind, throw, throwThe, MonadExceptOf.throw,
    pure, Except.pure]

theorem validate_eq_ok_iff : c.validate rect format = .ok camera ↔
    c.camera = some camera ∧ format = .bgra8888 ∧ rect.isEmpty = false ∧
      rect.fitsIn camera = true := by
  cases hcamera : c.camera with
  | none => simp [validate_of_unbound hcamera]
  | some size =>
    rw [validate_of_bound hcamera]
    by_cases hformat : format = .bgra8888
    · by_cases hplace : rect.isEmpty || !rect.fitsIn size
      · rw [if_neg (not_not_intro hformat), if_pos hplace]
        constructor
        · intro h
          cases h
        · rintro ⟨h, -, hempty, hfits⟩
          obtain rfl := Option.some.inj h
          simp [hempty, hfits] at hplace
      · rw [if_neg (not_not_intro hformat), if_neg hplace]
        rw [Bool.or_eq_true, not_or, Bool.not_eq_true, Bool.not_eq_true', Bool.not_eq_false]
          at hplace
        constructor
        · intro h
          cases h
          exact ⟨rfl, hformat, hplace⟩
        · rintro ⟨h, -, -, -⟩
          rw [Option.some.inj h]
    · simp [hformat]

/-- The table is searched for a free slot from its beginning. -/
theorem find?_free_eq_some_iff :
    ((List.range regionLimit).find? fun id ↦ (c.region? id).isNone) = some slot ↔
      slot < regionLimit ∧ c.region? slot = none ∧ ∀ lower < slot, c.region? lower ≠ none := by
  rw [List.find?_range_eq_some, Option.isNone_iff_eq_none, List.mem_range]
  constructor
  · rintro ⟨hfree, hslot, hlower⟩
    refine ⟨hslot, hfree, ?_⟩
    intro lower hlt hnone
    simpa [hnone] using hlower lower hlt
  · rintro ⟨hslot, hfree, hlower⟩
    refine ⟨hfree, hslot, ?_⟩
    intro lower hlt
    simpa using Option.isSome_iff_ne_none.mpr (hlower lower hlt)

theorem find?_free_eq_none_iff :
    ((List.range regionLimit).find? fun id ↦ (c.region? id).isNone) = none ↔
      ∀ id < regionLimit, c.region? id ≠ none := by
  simp

/-- What adding a region comes to: it is refused by a check, the table is full, or the lowest free
slot is allocated. -/
theorem addRegion_cases (c : Compositor) (rect : Rect) (format : PixelFormat) :
    (∃ cause, c.validate rect format = .error cause ∧
      c.addRegion rect format = (.error cause, c)) ∨
    ∃ camera, c.validate rect format = .ok camera ∧
      (((∀ id < regionLimit, c.region? id ≠ none) ∧
          c.addRegion rect format = (.error .noRegionAvailable, c)) ∨
        ∃ slot < regionLimit, c.region? slot = none ∧ (∀ lower < slot, c.region? lower ≠ none) ∧
          c.addRegion rect format = ((c.allocateAt slot rect format .plain).1.map fun _ ↦ slot,
            (c.allocateAt slot rect format .plain).2)) := by
  unfold addRegion
  cases hvalid : c.validate rect format with
  | error cause => exact .inl ⟨cause, rfl, rfl⟩
  | ok camera =>
    refine .inr ⟨camera, rfl, ?_⟩
    cases hfind : (List.range regionLimit).find? fun id ↦ (c.region? id).isNone with
    | none => exact .inl ⟨find?_free_eq_none_iff.mp hfind, rfl⟩
    | some slot =>
      obtain ⟨hslot, hfree, hlower⟩ := find?_free_eq_some_iff.mp hfind
      refine .inr ⟨slot, hslot, hfree, hlower, ?_⟩
      dsimp only
      rcases c.allocateAt slot rect format .plain with ⟨_ | _, after⟩ <;> rfl

/-! ## One operation after another -/

/-- An operation followed by another one, which is left out if the first fails. -/
def andThen (answer : Except Failure Unit × Compositor)
    (next : Compositor → Except Failure Unit × Compositor) : Except Failure Unit × Compositor :=
  match answer with
  | (.error cause, after) => (.error cause, after)
  | (.ok _, after) => next after

theorem andThen_of_ok {answer : Except Failure Unit × Compositor} (h : answer.1 = .ok ())
    (next : Compositor → Except Failure Unit × Compositor) :
    andThen answer next = next answer.2 := by
  obtain ⟨result, after⟩ := answer
  obtain rfl : result = .ok () := h
  rfl

theorem andThen_of_error {answer : Except Failure Unit × Compositor} (h : answer.1 = .error cause)
    (next : Compositor → Except Failure Unit × Compositor) :
    andThen answer next = answer := by
  obtain ⟨result, after⟩ := answer
  obtain rfl : result = .error cause := h
  rfl

theorem deleteRegions_cons (c : Compositor) (id : Nat) (rest : List Nat) :
    c.deleteRegions (id :: rest) =
      andThen (c.deleteRegion id) fun after ↦ after.deleteRegions rest := by
  rw [deleteRegions]
  rcases c.deleteRegion id with ⟨_ | _, after⟩ <;> rfl

theorem deleteRegions_of_free {ids : List Nat}
    (h : ∀ slot ∈ ids, slot < regionLimit ∧ c.region? slot = none) :
    c.deleteRegions ids = (.ok (), c) := by
  induction ids with
  | nil => rfl
  | cons id rest ih =>
    obtain ⟨hrange, hfree⟩ := h id List.mem_cons_self
    rw [deleteRegions_cons, deleteRegion_of_free hrange hfree, andThen_of_ok rfl]
    exact ih fun other hother ↦ h other (List.mem_cons_of_mem id hother)

/-- Slots that were deleted are free, and all others as before. -/
theorem view_deleteRegions {ids : List Nat}
    (hfree : ∀ slot ∈ ids, c.region? slot = none → c.view slot = ⟨none, none⟩)
    (hok : (c.deleteRegions ids).1 = .ok ()) (slot : Nat) :
    (c.deleteRegions ids).2.view slot = if slot ∈ ids then ⟨none, none⟩ else c.view slot := by
  induction ids generalizing c with
  | nil => rfl
  | cons id rest ih =>
    rw [deleteRegions_cons] at hok ⊢
    have hid := hfree id List.mem_cons_self
    have hrest : ∀ other ∈ rest, c.region? other = none → c.view other = ⟨none, none⟩ :=
      fun other hother ↦ hfree other (List.mem_cons_of_mem id hother)
    cases hregion : c.region? id with
    | none =>
      by_cases hrange : id < regionLimit
      · have hdelete := deleteRegion_of_free hrange hregion
        rw [hdelete, andThen_of_ok rfl] at hok ⊢
        rw [ih hrest hok]
        by_cases hself : slot = id
        · rw [hself, hid hregion, ite_self, if_pos List.mem_cons_self]
        · simp only [List.mem_cons, hself, false_or]
      · rw [deleteRegion_of_le (Nat.not_lt.mp hrange), andThen_of_error rfl] at hok
        cases hok
    | some region =>
      have hdelete := puts_deleteRegion hregion
      cases hverdict : c.hardware.detaching.next with
      | some cause =>
        rw [hverdict] at hdelete
        obtain ⟨hresult, -, -⟩ := hdelete.error
        rw [andThen_of_error hresult, hresult] at hok
        cases hok
      | none =>
        rw [hverdict] at hdelete
        obtain ⟨hresult, hsets⟩ := hdelete.ok
        rw [andThen_of_ok hresult] at hok ⊢
        have hafter : ∀ other ∈ rest, (c.deleteRegion id).2.region? other = none →
            (c.deleteRegion id).2.view other = ⟨none, none⟩ := by
          intro other hother hnone
          have hregions : ((c.deleteRegion id).2.view other).region = none := hnone
          rw [hsets.view] at hregions ⊢
          split_ifs at hregions ⊢
          · rfl
          · exact hrest other hother hregions
        rw [ih hafter hok, hsets.view]
        by_cases hself : slot = id
        · rw [if_pos hself, ite_self, hself, if_pos List.mem_cons_self]
        · simp only [List.mem_cons, hself, false_or, if_false]

theorem region?_deleteRegions_of_mem {ids : List Nat}
    (hfree : ∀ slot ∈ ids, c.region? slot = none → c.view slot = ⟨none, none⟩)
    (hok : (c.deleteRegions ids).1 = .ok ()) (hslot : slot ∈ ids) :
    (c.deleteRegions ids).2.region? slot = none := by
  have hview := view_deleteRegions hfree hok slot
  rw [if_pos hslot] at hview
  exact congrArg SlotView.region hview

/-- Allocates, fills and publishes a single strip. -/
def paintStrip (c : Compositor) (color : Color) (slot : Nat) (strip : Rect) :
    Except Failure Unit × Compositor :=
  andThen (c.allocateAt slot strip .bgra8888 .rectangle) fun after ↦
    match after.region? slot with
    | none => (.error (.regionNotAllocated slot), after)
    | some region => (after.setSlot slot (some (region.filled color))).updateRegion slot

theorem paintStrips_cons (c : Compositor) (color : Color) (slot : Nat) (strip : Rect)
    (rest : List Rect) :
    c.paintStrips color slot (strip :: rest) =
      andThen (c.paintStrip color slot strip) fun after ↦
        after.paintStrips color (slot + 1) rest := by
  rw [paintStrips, paintStrip]
  rcases c.allocateAt slot strip .bgra8888 .rectangle with ⟨_ | _, after⟩
  · rfl
  · simp only [andThen]
    cases after.region? slot with
    | none => rfl
    | some region =>
      rcases hupdate : (after.setSlot slot (some (region.filled color))).updateRegion slot with
        ⟨_ | _, last⟩ <;> simp only [hupdate]

theorem paintStrip_of_error (h : c.validate strip .bgra8888 = .error cause) :
    c.paintStrip color slot strip = (.error cause, c) := by
  rw [paintStrip, allocateAt_of_error h]
  rfl

/-! ## Rectangles -/

/-- What painting a strip into a free slot comes to: one of the two calls that it makes fails, or
the slot shows the strip in its colour. -/
theorem paintStrip_cases (color : Color) (hvalid : c.validate strip .bgra8888 = .ok camera)
    (hslot : slot < regionLimit) (hfree : c.view slot = ⟨none, none⟩) :
    let placement := c.orientation.place strip camera
    let painted := (Region.blank slot strip placement .bgra8888 .rectangle c.orientation).filled
      color
    (∃ cause new, (c.paintStrip color slot strip).1 = .error cause ∧
        some cause ∈ c.hardware.verdicts ∧
        (new = ⟨none, none⟩ ∨ new = ⟨some painted, some ⟨placement, .bgra8888, [], 0⟩⟩) ∧
        c.Sets slot new (c.paintStrip color slot strip).2) ∨
      ((c.paintStrip color slot strip).1 = .ok () ∧
        c.Sets slot ⟨some painted, some ⟨placement, .bgra8888, painted.published, 1⟩⟩
          (c.paintStrip color slot strip).2) := by
  intro placement painted
  have hallocate := puts_allocateAt .rectangle hvalid hslot hfree
  unfold paintStrip
  cases hverdict : c.hardware.attaching.next with
  | some cause =>
    rw [hverdict] at hallocate
    obtain ⟨hresult, hmem, hsets⟩ := hallocate.error
    rw [andThen_of_error hresult]
    exact .inl ⟨cause, _, hresult, hmem, .inl hfree, hsets⟩
  | none =>
    rw [hverdict] at hallocate
    obtain ⟨hresult, hallocated⟩ := hallocate.ok
    have hregion := congrArg SlotView.region hallocated.view_self
    have hattached := congrArg SlotView.attachment hallocated.view_self
    rw [andThen_of_ok hresult]
    generalize (c.allocateAt slot strip .bgra8888 .rectangle).2 = after at *
    dsimp only [view] at hregion
    rw [hregion]
    dsimp only
    have hfilled := hallocated.trans (sets_setSlot after hslot (some painted))
    rw [hattached] at hfilled
    have hpublished : painted.published.length = placement.area * canvasDepth := by
      rw [Region.length_published, Region.length_filled, Region.length_blank]
      rfl
    have hupdate := puts_updateRegion hfilled.view_self hpublished
    have hverdicts := hfilled.continues.verdicts
    cases hnext : (after.setSlot slot (some painted)).hardware.committing.next with
    | some cause =>
      rw [hnext] at hupdate
      obtain ⟨hfailed, hmem, hsets⟩ := hupdate.error
      rw [hfilled.view_self] at hsets
      exact .inl ⟨cause, _, hfailed, hverdicts hmem, .inr rfl, hfilled.trans hsets⟩
    | none =>
      rw [hnext] at hupdate
      exact .inr ⟨hupdate.ok.1, hfilled.trans hupdate.ok.2⟩

theorem mem_rectangleRange : slot ∈ rectangleRange id ↔ id ≤ slot ∧ slot < id + rectangleSlots :=
  List.mem_range'_1

/-- What drawing a rectangle comes to: it is refused by a check, or crashes in one, which changes
nothing, or earlier rectangles are deleted and the strips of the border are painted. -/
theorem drawRect_cases (c : Compositor) (id : Nat) (x y w h : Int) (color : Color)
    (thickness : Int) :
    (∃ cause, (cause.isRefusal = true ∨
        wordSize ≤ id + rectangleSlots ∧ cause = .rangeOverflow id) ∧
      c.drawRect id x y w h color thickness = (.error cause, c)) ∨
    ∃ camera, c.camera = some camera ∧ id + rectangleSlots ≤ regionLimit ∧
      (Rect.clamp x y w h camera).isEmpty = false ∧
      (∀ slot ∈ rectangleRange id, ∀ region, c.region? slot = some region →
        region.purpose = .rectangle) ∧
      c.drawRect id x y w h color thickness =
        andThen (c.deleteRegions (rectangleRange id)) fun after ↦
          after.paintStrips color id (borderStrips (Rect.clamp x y w h camera) thickness) := by
  unfold drawRect requireCamera
  cases c.camera with
  | none => exact .inl ⟨_, .inl rfl, rfl⟩
  | some camera =>
    dsimp only
    by_cases hword : wordSize ≤ id + rectangleSlots
    · rw [if_pos hword]
      exact .inl ⟨_, .inr ⟨hword, rfl⟩, rfl⟩
    by_cases hroom : regionLimit < id + rectangleSlots
    · rw [if_neg hword, if_pos hroom]
      exact .inl ⟨_, .inl rfl, rfl⟩
    by_cases hempty : (Rect.clamp x y w h camera).isEmpty = true
    · rw [if_neg hword, if_neg hroom, if_pos hempty]
      exact .inl ⟨_, .inl rfl, rfl⟩
    rw [if_neg hword, if_neg hroom, if_neg hempty]
    cases hbusy : (rectangleRange id).find? fun slot ↦
      (c.region? slot).any fun r ↦ r.purpose != .rectangle with
    | some busy => exact .inl ⟨_, .inl rfl, rfl⟩
    | none =>
      refine .inr ⟨camera, rfl, Nat.not_lt.mp hroom, by simpa using hempty, ?_, ?_⟩
      · intro slot hslot region hregion
        have hpurpose := List.find?_eq_none.mp hbusy slot hslot
        simpa [hregion] using hpurpose
      · dsimp only
        rcases c.deleteRegions (rectangleRange id) with ⟨_ | _, after⟩ <;> rfl

end Compositor

end LiveCamera
