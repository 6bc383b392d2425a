import LiveCamera.Proofs.Overlay.Table

/-!
# What a rectangle paints

A rectangle is clipped to the picture and comes into consecutive slots, in strips that do not
overlap.  `PaintsBorder` says what the slots hold afterwards, and `drawRect_paints_border` that every
rectangle with a part inside the picture is painted, on hardware on which every call works.

Everything in the slots is known, from the regions in the table to the canvases that the plane
shows: a canvas in one colour is its own mirror image, so it is published as it was filled.
-/

namespace LiveCamera

/-- The canvas of a rectangle in one colour. -/
def Rect.sheet (rect : Rect) (color : Color) : Bytes :=
  (List.replicate rect.area color.pixel).flatten

namespace Region

variable {id : Nat} {rect placement : Rect} {format : PixelFormat} {purpose : RegionPurpose}
  {o : Orientation}

theorem filled_blank (color : Color) :
    (blank id rect placement format purpose o).filled color =
      ⟨id, rect, placement, format, purpose, o, rect.sheet color⟩ := by
  have hpixels : canvasLength rect / canvasDepth = rect.area :=
    Nat.mul_div_cancel _ (by decide)
  simp only [filled, blank, List.length_replicate, hpixels, Rect.sheet, Region.mk.injEq,
    true_and]
  rw [List.drop_of_length_le, List.append_nil]
  simp [canvasLength, Rect.area]

/-- A canvas in one colour is published as it is. -/
theorem published_sheet (color : Color) :
    published ⟨id, rect, placement, format, purpose, o, rect.sheet color⟩ = rect.sheet color :=
  o.apply_replicate color.length_pixel rect.w rect.h

end Region

namespace Compositor

variable {c : Compositor} {slot id : Nat} {camera : Size} {color : Color} {strip : Rect}

/-- The slot of a strip that was painted in one colour and published once. -/
def SlotView.painted (o : Orientation) (camera : Size) (color : Color) (slot : Nat) (strip : Rect) :
    SlotView where
  region := some ⟨slot, strip, o.place strip camera, .bgra8888, .rectangle, o, strip.sheet color⟩
  attachment := some ⟨o.place strip camera, .bgra8888, strip.sheet color, 1⟩

theorem paintStrip_of_healthy (hhealthy : c.hardware.verdicts = [])
    (hcamera : c.camera = some camera)
    (hslot : slot < regionLimit) (hfree : c.view slot = ⟨none, none⟩) (color : Color)
    (hempty : strip.isEmpty = false) (hfits : strip.fitsIn camera = true) :
    (c.paintStrip color slot strip).1 = .ok () ∧
      c.Sets slot (.painted c.orientation camera color slot strip)
        (c.paintStrip color slot strip).2 := by
  have hvalid : c.validate strip .bgra8888 = .ok camera :=
    validate_eq_ok_iff.mpr ⟨hcamera, rfl, hempty, hfits⟩
  rcases paintStrip_cases color hvalid hslot hfree with ⟨cause, -, -, hmem, -, -⟩ | ⟨hresult, hsets⟩
  · rw [hhealthy] at hmem
    cases hmem
  · rw [Region.filled_blank, Region.published_sheet] at hsets
    exact ⟨hresult, hsets⟩

/-- Painting strips into free slots, on hardware on which every call works. -/
theorem paintStrips_of_healthy (hhealthy : c.hardware.verdicts = [])
    (hcamera : c.camera = some camera) {strips : List Rect}
    (hroom : slot + strips.length ≤ regionLimit)
    (hfree : ∀ other, slot ≤ other → other < slot + strips.length → c.view other = ⟨none, none⟩)
    (color : Color)
    (hstrips : ∀ strip ∈ strips, strip.isEmpty = false ∧ strip.fitsIn camera = true) :
    (c.paintStrips color slot strips).1 = .ok () ∧
      (∀ i strip, strips[i]? = some strip → (c.paintStrips color slot strips).2.view (slot + i) =
        .painted c.orientation camera color (slot + i) strip) ∧
      ∀ other, other < slot ∨ slot + strips.length ≤ other →
        (c.paintStrips color slot strips).2.view other = c.view other := by
  induction strips generalizing c slot with
  | nil => exact ⟨rfl, by simp, fun _ _ ↦ rfl⟩
  | cons strip rest ih =>
    rw [List.length_cons] at hroom hfree
    obtain ⟨hempty, hfits⟩ := hstrips strip List.mem_cons_self
    obtain ⟨hresult, hsets⟩ := paintStrip_of_healthy hhealthy hcamera
      (show slot < regionLimit by omega) (hfree slot (Nat.le_refl _) (by omega)) color hempty hfits
    rw [paintStrips_cons, andThen_of_ok hresult]
    generalize (c.paintStrip color slot strip).2 = after at *
    have hafter : ∀ other, slot + 1 ≤ other → other < slot + 1 + rest.length →
        after.view other = ⟨none, none⟩ := by
      intro other hlow hhigh
      rw [hsets.view_of_ne (by omega)]
      exact hfree other (by omega) (by omega)
    obtain ⟨hok, hpainted, hothers⟩ := ih
      (List.subset_nil.mp (hhealthy ▸ hsets.continues.verdicts))
      (hsets.continues.camera.trans hcamera) (by omega) hafter
      fun other hother ↦ hstrips other (List.mem_cons_of_mem strip hother)
    rw [hsets.continues.orientation] at hpainted
    refine ⟨hok, ?_, ?_⟩
    · intro i painted hi
      cases i with
      | zero =>
        obtain rfl : strip = painted := by simpa using hi
        exact (hothers slot (.inl (Nat.lt_succ_self slot))).trans hsets.view_self
      | succ i =>
        have hrest := hpainted i painted (by simpa using hi)
        rwa [Nat.add_right_comm] at hrest
    · intro other hother
      rw [List.length_cons] at hother
      rw [hothers other (by omega), hsets.view_of_ne (by omega)]

/-- On hardware on which every call works, slots of the table are freed. -/
theorem deleteRegions_of_healthy (h : c.InStep) (hhealthy : c.hardware.verdicts = [])
    {ids : List Nat} (hids : ∀ id ∈ ids, id < regionLimit) :
    (c.deleteRegions ids).1 = .ok () ∧
      ∀ slot, (c.deleteRegions ids).2.view slot =
        if slot ∈ ids then ⟨none, none⟩ else c.view slot := by
  have hok : (c.deleteRegions ids).1 = .ok () := by
    induction ids generalizing c with
    | nil => rfl
    | cons id rest ih =>
      have hid := hids id List.mem_cons_self
      have hrest := fun other hother ↦ hids other (List.mem_cons_of_mem id hother)
      have hfirst : (c.deleteRegion id).1 = .ok () := by
        cases hregion : c.region? id with
        | none => rw [deleteRegion_of_free hid hregion]
        | some region =>
          obtain ⟨-, -, hdetaching⟩ := Hardware.verdicts_eq_nil_iff.mp hhealthy
          have hputs := puts_deleteRegion hregion
          rw [hdetaching] at hputs
          exact hputs.ok.1
      have hafter : c.Outcome (fun slot _ ↦ slot = id) (c.deleteRegion id) :=
        h.outcome_deleteRegion id fun _ ↦ rfl
      rw [deleteRegions_cons, andThen_of_ok hfirst]
      exact ih hafter.inStep (List.subset_nil.mp (hhealthy ▸ hafter.continues.verdicts)) hrest
  exact ⟨hok, view_deleteRegions (fun slot _ ↦ h.view_of_free) hok⟩

/-- What drawing a rectangle comes to if its slots exist and none of them belongs to the
application. -/
theorem drawRect_of_unused (hcamera : c.camera = some camera)
    (hid : id + rectangleSlots ≤ regionLimit)
    (hunused : ∀ slot region, id ≤ slot → slot < id + rectangleSlots →
      c.region? slot = some region → region.purpose = .rectangle)
    (x y w h : Int) (color : Color) (thickness : Int) :
    c.drawRect id x y w h color thickness =
      if (Rect.clamp x y w h camera).isEmpty then (.error (.rectangleOutside x y w h camera), c)
      else andThen (c.deleteRegions (rectangleRange id)) fun after ↦
        after.paintStrips color id (borderStrips (Rect.clamp x y w h camera) thickness) := by
  have hword : ¬wordSize ≤ id + rectangleSlots := by
    unfold regionLimit wordSize at *
    omega
  have hfind : ((rectangleRange id).find? fun slot ↦
      (c.region? slot).any fun r ↦ r.purpose != .rectangle) = none := by
    rw [List.find?_eq_none]
    intro slot hslot
    obtain ⟨hlow, hhigh⟩ := mem_rectangleRange.mp hslot
    cases hregion : c.region? slot with
    | none => simp
    | some region => simp [hunused slot region hlow hhigh hregion]
  unfold drawRect
  simp only [requireCamera_of_bound hcamera, if_neg hword, if_neg (Nat.not_lt.mpr hid), hfind]
  split_ifs
  · rfl
  · rcases c.deleteRegions (rectangleRange id) with ⟨_ | _, after⟩ <;> rfl

/-- What a rectangle paints on hardware on which every call works: its strips come into the first of
its slots, and the others are free. -/
theorem drawRect_of_healthy (h : c.InStep) (hhealthy : c.hardware.verdicts = [])
    (hcamera : c.camera = some camera) (hwidth : camera.width ≤ Rect.maxCoordinate)
    (hheight : camera.height ≤ Rect.maxCoordinate) (hid : id + rectangleSlots ≤ regionLimit)
    (hunused : ∀ slot region, id ≤ slot → slot < id + rectangleSlots →
      c.region? slot = some region → region.purpose = .rectangle)
    {x y w h' : Int} (hempty : (Rect.clamp x y w h' camera).isEmpty = false) (color : Color)
    (thickness : Int) :
    let strips := borderStrips (Rect.clamp x y w h' camera) thickness
    let answer := c.drawRect id x y w h' color thickness
    answer.1 = .ok () ∧
      (∀ i strip, strips[i]? = some strip →
        answer.2.view (id + i) = .painted c.orientation camera color (id + i) strip) ∧
      (∀ slot, id + strips.length ≤ slot → slot < id + rectangleSlots →
        answer.2.view slot = ⟨none, none⟩) ∧
      ∀ slot, slot < id ∨ id + rectangleSlots ≤ slot → answer.2.view slot = c.view slot := by
  intro strips answer
  have hids : ∀ slot ∈ rectangleRange id, slot < regionLimit := by
    intro slot hslot
    obtain ⟨-, hhigh⟩ := mem_rectangleRange.mp hslot
    omega
  have hfits := Rect.fitsIn_clamp hwidth hheight x y w h'
  have hcount : strips.length ≤ rectangleSlots := length_borderStrips _ thickness
  have hstrips : ∀ strip ∈ strips, strip.isEmpty = false ∧ strip.fitsIn camera = true :=
    fun _ hstrip ↦ fitsIn_of_mem_borderStrips hempty hfits hstrip
  obtain ⟨hdeleted, hviews⟩ := deleteRegions_of_healthy h hhealthy hids
  have houtcome : c.Outcome (fun slot _ ↦ slot ∈ rectangleRange id)
      (c.deleteRegions (rectangleRange id)) := h.outcome_deleteRegions fun _ hslot _ ↦ hslot
  have hkept := houtcome.continues
  have hanswer : answer = (c.deleteRegions (rectangleRange id)).2.paintStrips color id strips := by
    simp only [answer, drawRect_of_unused hcamera hid hunused, hempty]
    exact andThen_of_ok hdeleted _
  clear_value answer strips
  generalize (c.deleteRegions (rectangleRange id)).2 = before at *
  have hfree : ∀ slot, id ≤ slot → slot < id + rectangleSlots → before.view slot = ⟨none, none⟩ := by
    intro slot hlow hhigh
    rw [hviews, if_pos (mem_rectangleRange.mpr ⟨hlow, hhigh⟩)]
  obtain ⟨hok, hpainted, hothers⟩ := paintStrips_of_healthy
    (List.subset_nil.mp (hhealthy ▸ hkept.verdicts)) (hkept.camera.trans hcamera)
    (show id + strips.length ≤ regionLimit by omega)
    (fun slot hlow hhigh ↦ hfree slot hlow (by omega)) color hstrips
  rw [hkept.orientation] at hpainted
  subst hanswer
  refine ⟨hok, hpainted, ?_, ?_⟩
  · intro slot hlow hhigh
    rw [hothers slot (.inr hlow), hfree slot (by omega) hhigh]
  · intro slot hslot
    have houtside : slot ∉ rectangleRange id := by
      rw [mem_rectangleRange]
      omega
    rw [hothers slot (by omega), hviews, if_neg houtside]

/-- The border of a clipped rectangle is painted in the slots from `id` on: the compositor before and
after it. -/
structure PaintsBorder (camera : Size) (color : Color) (id : Nat) (clip : Rect) (thickness : Int)
    (c after : Compositor) : Prop where
  /-- Each slot is free, or shows a rectangle inside the clipped one in the given colour. -/
  slots : ∀ slot, id ≤ slot → slot < id + rectangleSlots → after.view slot = ⟨none, none⟩ ∨
    ∃ strip, strip.isEmpty = false ∧
      (∀ px py, strip.contains px py = true → clip.contains px py = true) ∧
      after.view slot = .painted c.orientation camera color slot strip
  disjoint : ∀ slot other a b, id ≤ slot → slot < other → other < id + rectangleSlots →
    after.region? slot = some a → after.region? other = some b → a.rect.Disjoint b.rect
  /-- What is painted are the pixels close to an edge, or all of them if that leaves no room
  inside. -/
  covers : ∀ px py, (∃ slot region, id ≤ slot ∧ slot < id + rectangleSlots ∧
      after.region? slot = some region ∧ region.rect.contains px py = true) ↔
    clip.contains px py = true ∧
      (0 < thickness → thickness < (min clip.w clip.h / 2 : Nat) →
        (clip.edgeDistance px py : Int) < thickness)
  others : ∀ slot, slot < id ∨ id + rectangleSlots ≤ slot → after.view slot = c.view slot

theorem PaintsBorder.of_strips {after : Compositor} {clip : Rect} {thickness : Int}
    (hempty : clip.isEmpty = false) (hfits : clip.fitsIn camera = true)
    (hpainted : ∀ i strip, (borderStrips clip thickness)[i]? = some strip →
      after.view (id + i) = .painted c.orientation camera color (id + i) strip)
    (hfree : ∀ slot, id + (borderStrips clip thickness).length ≤ slot →
      slot < id + rectangleSlots → after.view slot = ⟨none, none⟩)
    (hothers : ∀ slot, slot < id ∨ id + rectangleSlots ≤ slot → after.view slot = c.view slot) :
    PaintsBorder camera color id clip thickness c after := by
  have hcontains := exists_mem_borderStrips_contains hempty hfits thickness
  have hdisjoint := pairwise_disjoint_borderStrips hfits thickness
  have hcount := length_borderStrips clip thickness
  have hnonempty : ∀ strip ∈ borderStrips clip thickness, strip.isEmpty = false :=
    fun _ hstrip ↦ (fitsIn_of_mem_borderStrips hempty hfits hstrip).1
  generalize borderStrips clip thickness = strips at *
  have hview : ∀ slot, id ≤ slot → slot < id + rectangleSlots →
      after.view slot = ⟨none, none⟩ ∨ ∃ strip, strips[slot - id]? = some strip ∧
        after.view slot = .painted c.orientation camera color slot strip := by
    intro slot hlow hhigh
    by_cases hslot : slot - id < strips.length
    · have hstrip := hpainted (slot - id) _ (List.getElem?_eq_getElem hslot)
      rw [Nat.add_sub_cancel' hlow] at hstrip
      exact .inr ⟨_, List.getElem?_eq_getElem hslot, hstrip⟩
    · exact .inl (hfree slot (by omega) hhigh)
  have hregion : ∀ slot region, id ≤ slot → slot < id + rectangleSlots →
      after.region? slot = some region → strips[slot - id]? = some region.rect := by
    intro slot region hlow hhigh hregion
    have hregions : (after.view slot).region = some region := hregion
    rcases hview slot hlow hhigh with hnone | ⟨strip, hstrip, hpaint⟩
    · rw [hnone] at hregions
      cases hregions
    · rw [hpaint] at hregions
      rw [hstrip, ← Option.some.inj hregions]
  refine ⟨?_, ?_, ?_, hothers⟩
  · intro slot hlow hhigh
    rcases hview slot hlow hhigh with hnone | ⟨strip, hstrip, hpaint⟩
    · exact .inl hnone
    · have hmem := List.mem_of_getElem? hstrip
      exact .inr ⟨strip, hnonempty strip hmem,
        fun px py hpixel ↦ ((hcontains px py).mp ⟨strip, hmem, hpixel⟩).1, hpaint⟩
  · intro slot other a b hlow hlt hhigh ha hb
    obtain ⟨hi, hfirst⟩ := List.getElem?_eq_some_iff.mp (hregion slot a hlow (by omega) ha)
    obtain ⟨hj, hlater⟩ := List.getElem?_eq_some_iff.mp (hregion other b (by omega) hhigh hb)
    rw [← hfirst, ← hlater]
    exact List.pairwise_iff_getElem.mp hdisjoint _ _ hi hj (by omega)
  · intro px py
    rw [← and_imp, ← HasBorder, ← hcontains]
    constructor
    · rintro ⟨slot, region, hlow, hhigh, hsome, hpixel⟩
      exact ⟨region.rect, List.mem_of_getElem? (hregion slot region hlow hhigh hsome), hpixel⟩
    · rintro ⟨strip, hmem, hpixel⟩
      obtain ⟨i, hi⟩ := List.mem_iff_getElem?.mp hmem
      obtain ⟨hlength, -⟩ := List.getElem?_eq_some_iff.mp hi
      exact ⟨id + i, _, by omega, by omega, congrArg SlotView.region (hpainted i strip hi), hpixel⟩

/-- Drawing a rectangle after any requests, on hardware on which every call works, in slots that the
application does not use.  It succeeds if a part of the rectangle lies inside the picture, and is
refused as a wrong argument otherwise, which changes nothing.  What is painted then is the border of
that part. -/
theorem drawRect_paints_border (o : Orientation) (requests : List Request) {camera : Size} {id : Nat}
    (hcamera : ((new o .healthy).performAll requests).camera = some camera)
    (hwidth : camera.width ≤ Rect.maxCoordinate) (hheight : camera.height ≤ Rect.maxCoordinate)
    (hid : id + rectangleSlots ≤ regionLimit)
    (hunused : ∀ slot region, id ≤ slot → slot < id + rectangleSlots →
      ((new o .healthy).performAll requests).region? slot = some region → region.purpose ≠ .plain)
    (x y w h : Int) (color : Color) (thickness : Int) :
    let c := (new o .healthy).performAll requests
    let clip := Rect.clamp x y w h camera
    let answer := c.drawRect id x y w h color thickness
    (∀ px py, clip.contains px py = true ↔
      (x ≤ px ∧ px < x + w ∧ px < camera.width) ∧ y ≤ py ∧ py < y + h ∧ py < camera.height) ∧
    (answer.1 = .ok () ↔ ∃ px py, clip.contains px py = true) ∧
    (answer.1 ≠ .ok () → answer = (.error (.rectangleOutside x y w h camera), c) ∧
      (Failure.rectangleOutside x y w h camera).kind = .argument) ∧
    (answer.1 = .ok () → c.orientation = o ∧
      PaintsBorder camera color id clip thickness c answer.2) := by
  intro c clip answer
  have hcarried := (inStep_new o [] [] []).performAll requests
  have hhealthy : c.hardware.verdicts = [] := List.subset_nil.mp hcarried.verdicts
  have hrectangle : ∀ slot region, id ≤ slot → slot < id + rectangleSlots →
      c.region? slot = some region → region.purpose = .rectangle := by
    intro slot region hlow hhigh hregion
    have hpurpose := hunused slot region hlow hhigh hregion
    cases hcase : region.purpose with
    | plain => exact absurd hcase hpurpose
    | rectangle => rfl
  have hfits : clip.fitsIn camera = true := Rect.fitsIn_clamp hwidth hheight x y w h
  have hanswer : answer = if clip.isEmpty then (.error (.rectangleOutside x y w h camera), c)
      else andThen (c.deleteRegions (rectangleRange id)) fun after ↦
        after.paintStrips color id (borderStrips clip thickness) :=
    drawRect_of_unused hcamera hid hrectangle x y w h color thickness
  refine ⟨Rect.contains_clamp hwidth hheight x y w h, ?_⟩
  rw [← Rect.isEmpty_eq_false_iff_exists_contains hfits]
  cases hempty : clip.isEmpty with
  | true =>
    rw [hempty, if_pos rfl] at hanswer
    rw [hanswer]
    exact ⟨by simp, fun _ ↦ ⟨rfl, rfl⟩, fun hok ↦ nomatch hok⟩
  | false =>
    obtain ⟨hok, hpainted, hfree, hothers⟩ := drawRect_of_healthy hcarried.inStep hhealthy hcamera
      hwidth hheight hid hrectangle hempty color thickness
    exact ⟨iff_of_true hok rfl, fun hfailed ↦ absurd hok hfailed,
      fun _ ↦ ⟨hcarried.orientation, .of_strips hempty hfits hpainted hfree hothers⟩⟩

/-- A rectangle that starts left of the picture replaces one that filled it; the region of the
application stays. -/
theorem drawRect_paints_border_clipped :
    let c := (new ⟨true, false⟩ .healthy).performAll
      [.bind ⟨8, 6⟩, .add ⟨0, 0, 2, 1⟩ .bgra8888, .rectangle 1 0 0 8 6 .red 0]
    let answer := c.drawRect 1 (-2) 1 8 4 .green 1
    answer.1 = .ok () ∧ PaintsBorder ⟨8, 6⟩ .green 1 ⟨0, 1, 6, 4⟩ 1 c answer.2 := by
  intro c answer
  have hcamera : c.camera = some ⟨8, 6⟩ := by decide +kernel
  have hunused : ∀ slot < 5, ∀ region ∈ c.region? slot, 1 ≤ slot → region.purpose ≠ .plain := by
    decide +kernel
  obtain ⟨-, hiff, -, hborder⟩ := drawRect_paints_border ⟨true, false⟩ _ hcamera (by decide)
    (by decide) (show 1 + 4 ≤ 16 by decide)
    (fun slot region hlow hhigh hregion ↦ hunused slot hhigh region hregion hlow) (-2) 1 8 4 .green 1
  have hok := hiff.mpr ⟨0, 1, by decide⟩
  exact ⟨hok, (hborder hok).2⟩

end Compositor

end LiveCamera
