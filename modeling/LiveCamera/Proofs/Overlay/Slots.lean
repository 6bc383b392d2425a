import LiveCamera.Association
import LiveCamera.Overlay.Compositor
import Mathlib.Tactic.SplitIfs
import Mathlib.Tactic.Tauto

/-!
# Slots

A slot is known in two places: the table of the compositor lists its region, and the plane what is
attached to it.  `SlotView` puts the two side by side, and `Puts` says what one operation on a slot
does to both, whether or not the call of the hardware that it makes is made to fail.  Everything
that a compositor does is a sequence of such changes.
-/

namespace LiveCamera

namespace Plane

variable {p after : Plane} {slot other : Nat} {placement : Rect} {format : PixelFormat}
  {pixels : Bytes} {a : Attachment}

/-! ## Slots in use -/

theorem lookup_insert {slots : List (Nat × Attachment)} (h : slots.lookup slot = none)
    (a : Attachment) (other : Nat) :
    (insert slot a slots).lookup other = if other = slot then some a else slots.lookup other := by
  induction slots with
  | nil => exact lookup_cons_eq_ite slot a [] other
  | cons first rest ih =>
    obtain ⟨key, value⟩ := first
    rw [lookup_cons_eq_ite] at h
    split_ifs at h with hkey
    unfold insert
    by_cases hlt : slot < key
    · rw [if_pos hlt, lookup_cons_eq_ite]
    · rw [if_neg hlt, lookup_cons_eq_ite, lookup_cons_eq_ite, ih h]
      by_cases hother : other = slot
      · rw [if_pos hother, if_neg (hother ▸ hkey), if_pos hother]
      · rw [if_neg hother, if_neg hother]

theorem lookup_replace_of_ne (slots : List (Nat × Attachment)) (h : other ≠ slot) (a : Attachment) :
    (slots.map fun s ↦ if s.1 = slot then (slot, a) else s).lookup other = slots.lookup other := by
  induction slots with
  | nil => rfl
  | cons first rest ih =>
    obtain ⟨key, value⟩ := first
    by_cases hkey : key = slot
    · subst hkey
      simp only [List.map_cons, if_true, lookup_cons_eq_ite, if_neg h, ih]
    · simp only [List.map_cons, if_neg hkey, lookup_cons_eq_ite, ih]

/-- A slot in use is given another attachment. -/
theorem lookup_replace {slots : List (Nat × Attachment)} (h : slots.lookup slot ≠ none)
    (a : Attachment) (other : Nat) :
    (slots.map fun s ↦ if s.1 = slot then (slot, a) else s).lookup other =
      if other = slot then some a else slots.lookup other := by
  split_ifs with hother
  · subst hother
    induction slots with
    | nil => exact absurd rfl h
    | cons first rest ih =>
      obtain ⟨key, value⟩ := first
      by_cases hkey : key = other
      · simp only [List.map_cons, if_pos hkey, lookup_cons_eq_ite, if_true]
      · rw [lookup_cons_eq_ite, if_neg (Ne.symm hkey)] at h
        simp only [List.map_cons, if_neg hkey, lookup_cons_eq_ite, if_neg (Ne.symm hkey), ih h]
  · exact lookup_replace_of_ne slots hother a

/-- A free slot can be attached. -/
theorem attach_of_free (h : p.attached? slot = none) (placement : Rect) (format : PixelFormat) :
    p.attach slot placement format = .ok ⟨insert slot ⟨placement, format, [], 0⟩ p.slots⟩ := by
  simp only [attach, h]

/-- A canvas that covers its slot is shown. -/
theorem commit_of_attached (h : p.attached? slot = some a)
    (hpixels : pixels.length = a.placement.area * canvasDepth) :
    p.commit slot pixels = .ok ⟨p.slots.map fun s ↦
      if s.1 = slot then (slot, { a with pixels, commits := a.commits + 1 }) else s⟩ := by
  simp only [commit, h, hpixels, ne_eq, not_true_eq_false, if_false]

theorem attached?_detach (p : Plane) (slot other : Nat) :
    (p.detach slot).attached? other = if other = slot then none else p.attached? other :=
  lookup_filter_fst_ne slot other p.slots

/-! ## The order of the slots -/

/-- Every slot is listed once, in the order of the numbers. -/
def Ordered (p : Plane) : Prop := p.slots.Pairwise (·.1 < ·.1)

theorem ordered_empty : empty.Ordered := List.Pairwise.nil

theorem mem_insert {slots : List (Nat × Attachment)} {s : Nat × Attachment} :
    s ∈ insert slot a slots ↔ s = (slot, a) ∨ s ∈ slots := by
  induction slots with
  | nil => simp [insert]
  | cons first rest ih =>
    unfold insert
    split_ifs
    · simp
    · rw [List.mem_cons, ih, List.mem_cons]
      tauto

theorem Ordered.insert (h : p.Ordered) (hfree : p.attached? slot = none) (a : Attachment) :
    (Plane.mk (Plane.insert slot a p.slots)).Ordered := by
  obtain ⟨slots⟩ := p
  unfold Ordered attached? at *
  dsimp only at *
  induction slots with
  | nil => simp [Plane.insert]
  | cons first rest ih =>
    obtain ⟨hfirst, hrest⟩ := List.pairwise_cons.mp h
    rw [lookup_cons_eq_ite] at hfree
    split_ifs at hfree with hkey
    unfold Plane.insert
    split_ifs with hlt
    · refine List.pairwise_cons.mpr ⟨?_, h⟩
      intro s hs
      rcases List.mem_cons.mp hs with rfl | hs
      · exact hlt
      · exact Nat.lt_trans hlt (hfirst s hs)
    · refine List.pairwise_cons.mpr ⟨?_, ih hrest hfree⟩
      intro s hs
      rcases mem_insert.mp hs with rfl | hs
      · exact Nat.lt_of_le_of_ne (Nat.not_lt.mp hlt) fun heq ↦ hkey heq.symm
      · exact hfirst s hs

theorem Ordered.replace (h : p.Ordered) (slot : Nat) (a : Attachment) :
    (Plane.mk (p.slots.map fun s ↦ if s.1 = slot then (slot, a) else s)).Ordered := by
  refine List.pairwise_map.mpr (h.imp ?_)
  intro s t hst
  split_ifs <;> omega

theorem Ordered.detach (h : p.Ordered) (slot : Nat) : (p.detach slot).Ordered :=
  List.Pairwise.filter _ h

/-- In an ordered plane a slot lists what is attached to it. -/
theorem Ordered.attached?_of_mem (h : p.Ordered) {s : Nat × Attachment} (hs : s ∈ p.slots) :
    p.attached? s.1 = some s.2 := by
  obtain ⟨slots⟩ := p
  unfold Ordered attached? at *
  dsimp only at *
  induction slots with
  | nil => simp at hs
  | cons first rest ih =>
    obtain ⟨hfirst, hrest⟩ := List.pairwise_cons.mp h
    obtain ⟨key, value⟩ := first
    rw [lookup_cons_eq_ite]
    rcases List.mem_cons.mp hs with rfl | hs
    · exact if_pos rfl
    · rw [if_neg (Nat.ne_of_gt (hfirst s hs))]
      exact ih hrest hs

end Plane

/-- What becomes of the next call of a kind: nothing lets it through. -/
def Verdicts.next (v : Verdicts) : Option Failure := v.head?.join

theorem Verdicts.mem_of_next {v : Verdicts} {cause : Failure} (h : v.next = some cause) :
    some cause ∈ v := by
  cases v with
  | nil => simp [next] at h
  | cons first rest =>
    obtain rfl : first = some cause := by simpa [next] using h
    exact List.mem_cons_self

namespace Hardware

variable {h : Hardware} {slot : Nat} {a : Attachment} {pixels : Bytes}

/-- The verdicts on all coming calls. -/
def verdicts (h : Hardware) : Verdicts := h.attaching ++ h.committing ++ h.detaching

theorem mem_verdicts {verdict : Option Failure} : verdict ∈ h.verdicts ↔
    verdict ∈ h.attaching ∨ verdict ∈ h.committing ∨ verdict ∈ h.detaching := by
  rw [verdicts, List.mem_append, List.mem_append, or_assoc]

theorem verdicts_eq_nil_iff :
    h.verdicts = [] ↔ h.attaching = [] ∧ h.committing = [] ∧ h.detaching = [] := by
  rw [verdicts, List.append_eq_nil_iff, List.append_eq_nil_iff, and_assoc]

/-- What comes of a call by the verdict on it: one that is made to fail leaves the plane as it is,
and every other one succeeds and makes it `plane`. -/
structure Answers (h : Hardware) (verdict : Option Failure) (plane : Plane)
    (answer : Except Failure Unit × Hardware) : Prop where
  result : answer.1 = verdict.elim (.ok ()) .error
  plane : answer.2.plane = verdict.elim plane fun _ ↦ h.plane
  verdicts : answer.2.verdicts ⊆ h.verdicts
  mem : ∀ cause, verdict = some cause → some cause ∈ h.verdicts

/-- A free slot is attached. -/
theorem answers_attach (hfree : h.plane.attached? slot = none) (placement : Rect)
    (format : PixelFormat) :
    h.Answers h.attaching.next ⟨Plane.insert slot ⟨placement, format, [], 0⟩ h.plane.slots⟩
      (h.attach slot placement format) := by
  have hmem : ∀ cause, h.attaching.next = some cause → some cause ∈ h.verdicts := fun _ hcause ↦
    mem_verdicts.mpr (.inl (Verdicts.mem_of_next hcause))
  have hsub (plane : Plane) :
      ({ h with plane, attaching := h.attaching.tail } : Hardware).verdicts ⊆ h.verdicts := by
    intro verdict hverdict
    rw [mem_verdicts] at *
    exact hverdict.imp_left List.mem_of_mem_tail
  unfold attach
  rw [Plane.attach_of_free hfree]
  rcases hverdicts : h.attaching with _ | ⟨_ | cause, rest⟩ <;> rw [hverdicts] at hmem hsub
  · exact ⟨rfl, rfl, hsub _, hmem⟩
  · exact ⟨rfl, rfl, hsub _, hmem⟩
  · exact ⟨rfl, rfl, hsub _, hmem⟩

/-- A canvas of the size of its slot is shown. -/
theorem answers_commit (hslot : h.plane.attached? slot = some a)
    (hpixels : pixels.length = a.placement.area * canvasDepth) :
    h.Answers h.committing.next
      ⟨h.plane.slots.map fun s ↦
        if s.1 = slot then (slot, { a with pixels, commits := a.commits + 1 }) else s⟩
      (h.commit slot pixels) := by
  have hmem : ∀ cause, h.committing.next = some cause → some cause ∈ h.verdicts := fun _ hcause ↦
    mem_verdicts.mpr (.inr (.inl (Verdicts.mem_of_next hcause)))
  have hsub (plane : Plane) :
      ({ h with plane, committing := h.committing.tail } : Hardware).verdicts ⊆ h.verdicts := by
    intro verdict hverdict
    rw [mem_verdicts] at *
    exact hverdict.imp_right (Or.imp_left List.mem_of_mem_tail)
  unfold commit
  rw [Plane.commit_of_attached hslot hpixels]
  rcases hverdicts : h.committing with _ | ⟨_ | cause, rest⟩ <;> rw [hverdicts] at hmem hsub
  · exact ⟨rfl, rfl, hsub _, hmem⟩
  · exact ⟨rfl, rfl, hsub _, hmem⟩
  · exact ⟨rfl, rfl, hsub _, hmem⟩

/-- A slot is released. -/
theorem answers_detach (h : Hardware) (slot : Nat) :
    h.Answers h.detaching.next (h.plane.detach slot) (h.detach slot) := by
  have hmem : ∀ cause, h.detaching.next = some cause → some cause ∈ h.verdicts := fun _ hcause ↦
    mem_verdicts.mpr (.inr (.inr (Verdicts.mem_of_next hcause)))
  have hsub (plane : Plane) :
      ({ h with plane, detaching := h.detaching.tail } : Hardware).verdicts ⊆ h.verdicts := by
    intro verdict hverdict
    rw [mem_verdicts] at *
    exact hverdict.imp_right (Or.imp_right List.mem_of_mem_tail)
  unfold detach
  rcases hverdicts : h.detaching with _ | ⟨_ | cause, rest⟩ <;> rw [hverdicts] at hmem hsub
  · exact ⟨rfl, rfl, hsub _, hmem⟩
  · exact ⟨rfl, rfl, hsub _, hmem⟩
  · exact ⟨rfl, rfl, hsub _, hmem⟩

end Hardware

namespace Compositor

/-- A slot as the table of regions and the plane know it. -/
structure SlotView where
  region : Option Region
  attachment : Option Attachment

variable {c after last : Compositor} {slot : Nat} {region : Region} {a : Attachment}
  {rect : Rect} {format : PixelFormat} {camera : Size}

def view (c : Compositor) (slot : Nat) : SlotView :=
  ⟨c.region? slot, c.hardware.plane.attached? slot⟩

theorem region?_of_le (c : Compositor) (hslot : regionLimit ≤ slot) : c.region? slot = none := by
  rw [region?, Vector.getElem?_eq_none hslot]
  rfl

theorem lt_of_region?_eq_some (h : c.region? slot = some region) : slot < regionLimit := by
  apply Nat.lt_of_not_le
  intro hslot
  rw [region?_of_le c hslot] at h
  cases h

theorem region?_setSlot (hslot : slot < regionLimit) (r : Option Region) (other : Nat) :
    (c.setSlot slot r).region? other = if other = slot then r else c.region? other := by
  unfold region? setSlot
  dsimp only
  rw [Vector.getElem?_setIfInBounds]
  by_cases hother : other = slot
  · rw [if_pos hother.symm, if_pos hslot, if_pos hother]
    rfl
  · rw [if_neg (Ne.symm hother), if_neg hother]

theorem view_setSlot (hslot : slot < regionLimit) (r : Option Region) (other : Nat) :
    (c.setSlot slot r).view other =
      if other = slot then ⟨r, (c.view slot).attachment⟩ else c.view other := by
  rw [view, region?_setSlot hslot]
  split_ifs with hother
  · rw [hother]
    rfl
  · rfl

/-! ## What operations leave alone -/

/-- What one state of a compositor hands on to the next: the size of the picture and the orientation
stay, and verdicts of the hardware are used up. -/
structure Continues (c after : Compositor) : Prop where
  camera : after.camera = c.camera
  orientation : after.orientation = c.orientation
  verdicts : after.hardware.verdicts ⊆ c.hardware.verdicts
  ordered : c.hardware.plane.Ordered → after.hardware.plane.Ordered

theorem Continues.refl (c : Compositor) : c.Continues c where
  camera := rfl
  orientation := rfl
  verdicts := List.Subset.refl _
  ordered := id

theorem Continues.trans (h : c.Continues after) (hlast : after.Continues last) :
    c.Continues last where
  camera := hlast.camera.trans h.camera
  orientation := hlast.orientation.trans h.orientation
  verdicts := List.Subset.trans hlast.verdicts h.verdicts
  ordered hordered := hlast.ordered (h.ordered hordered)

theorem continues_setSlot (c : Compositor) (slot : Nat) (r : Option Region) :
    c.Continues (c.setSlot slot r) where
  camera := rfl
  orientation := rfl
  verdicts := List.Subset.refl _
  ordered := id

/-- A change of one slot: it is as `new` says, and every other slot as before. -/
structure Sets (c : Compositor) (slot : Nat) (new : SlotView) (after : Compositor) : Prop where
  continues : c.Continues after
  view : ∀ other, after.view other = if other = slot then new else c.view other

theorem Sets.view_self {new : SlotView} (h : c.Sets slot new after) : after.view slot = new := by
  rw [h.view, if_pos rfl]

theorem Sets.view_of_ne {new : SlotView} (h : c.Sets slot new after) {other : Nat}
    (hother : other ≠ slot) : after.view other = c.view other := by
  rw [h.view, if_neg hother]

theorem Sets.trans {new newer : SlotView} (h : c.Sets slot new after)
    (hlast : after.Sets slot newer last) : c.Sets slot newer last where
  continues := h.continues.trans hlast.continues
  view other := by
    rw [hlast.view, h.view]
    split_ifs <;> rfl

theorem sets_setSlot (c : Compositor) (hslot : slot < regionLimit) (r : Option Region) :
    c.Sets slot ⟨r, (c.view slot).attachment⟩ (c.setSlot slot r) where
  continues := continues_setSlot c slot r
  view := view_setSlot hslot r

/-! ## What one call of the hardware comes to -/

/-- An operation on one slot, with the verdict on the call of the hardware that it makes: a call
that is made to fail ends the operation and changes no slot, and otherwise the slot is as `new`
says. -/
structure Puts (c : Compositor) (slot : Nat) (new : SlotView) (verdict : Option Failure)
    (answer : Except Failure Unit × Compositor) : Prop where
  mem : ∀ cause, verdict = some cause → some cause ∈ c.hardware.verdicts
  result : answer.1 = verdict.elim (.ok ()) .error
  sets : c.Sets slot (verdict.elim new fun _ ↦ c.view slot) answer.2

theorem Puts.ok {new : SlotView} {answer : Except Failure Unit × Compositor}
    (h : c.Puts slot new none answer) : answer.1 = .ok () ∧ c.Sets slot new answer.2 :=
  ⟨h.result, h.sets⟩

theorem Puts.error {new : SlotView} {cause : Failure} {answer : Except Failure Unit × Compositor}
    (h : c.Puts slot new (some cause) answer) : answer.1 = .error cause ∧
      some cause ∈ c.hardware.verdicts ∧ c.Sets slot (c.view slot) answer.2 :=
  ⟨h.result, h.mem cause rfl, h.sets⟩

/-- A call that succeeds, together with a change in the table. -/
theorem sets_of_answers {new : SlotView} {plane : Plane} {call : Except Failure Unit × Hardware}
    {slots : Vector (Option Region) regionLimit} (h : c.hardware.Answers none plane call)
    (hordered : c.hardware.plane.Ordered → plane.Ordered)
    (hplane : ∀ other, plane.attached? other =
      if other = slot then new.attachment else c.hardware.plane.attached? other)
    (hslots : ∀ other, ({ c with slots } : Compositor).region? other =
      if other = slot then new.region else c.region? other) :
    c.Sets slot new { c with slots, hardware := call.2 } := by
  refine ⟨⟨rfl, rfl, h.verdicts, ?_⟩, ?_⟩
  · intro hbefore
    rw [h.plane]
    exact hordered hbefore
  · intro other
    have hregion : ({ c with slots, hardware := call.2 } : Compositor).region? other =
        if other = slot then new.region else c.region? other := hslots other
    rw [view, hregion, h.plane]
    simp only [Option.elim_none, hplane]
    split_ifs <;> rfl

/-- An operation that is one call of the hardware and, if that succeeds, a change in the table. -/
theorem puts_of_answers {new : SlotView} {verdict : Option Failure} {plane : Plane}
    {call : Except Failure Unit × Hardware} {answer : Except Failure Unit × Compositor}
    (h : c.hardware.Answers verdict plane call)
    (hordered : c.hardware.plane.Ordered → plane.Ordered)
    (hplane : ∀ other, plane.attached? other =
      if other = slot then new.attachment else c.hardware.plane.attached? other)
    (hfailed : ∀ cause, call.1 = .error cause →
      answer = (.error cause, { c with hardware := call.2 }))
    (hdone : call.1 = .ok () → ∃ slots, answer = (.ok (), { c with slots, hardware := call.2 }) ∧
      ∀ other, ({ c with slots } : Compositor).region? other =
        if other = slot then new.region else c.region? other) :
    c.Puts slot new verdict answer := by
  cases verdict with
  | none =>
    obtain ⟨slots, rfl, hslots⟩ := hdone h.result
    exact ⟨h.mem, rfl, sets_of_answers h hordered hplane hslots⟩
  | some cause =>
    obtain rfl := hfailed cause h.result
    refine ⟨h.mem, rfl, ⟨rfl, rfl, h.verdicts, ?_⟩, ?_⟩
    · intro hbefore
      rw [h.plane]
      exact hbefore
    · intro other
      have hview : ({ c with hardware := call.2 } : Compositor).view other = c.view other := by
        rw [view, h.plane]
        rfl
      rw [hview]
      split_ifs with hother
      · rw [hother]
        rfl
      · rfl

theorem allocateAt_of_error {purpose : RegionPurpose} {cause : Failure}
    (h : c.validate rect format = .error cause) :
    c.allocateAt slot rect format purpose = (.error cause, c) := by
  simp only [allocateAt, h]

/-- Allocating a free slot for a rectangle that can be shown. -/
theorem puts_allocateAt (purpose : RegionPurpose) (hvalid : c.validate rect format = .ok camera)
    (hslot : slot < regionLimit) (hfree : c.view slot = ⟨none, none⟩) :
    c.Puts slot
      ⟨some (.blank slot rect (c.orientation.place rect camera) format purpose c.orientation),
        some ⟨c.orientation.place rect camera, format, [], 0⟩⟩
      c.hardware.attaching.next (c.allocateAt slot rect format purpose) := by
  have hunattached : c.hardware.plane.attached? slot = none := congrArg SlotView.attachment hfree
  have hanswers := Hardware.answers_attach hunattached (c.orientation.place rect camera) format
  refine puts_of_answers hanswers (fun hordered ↦ hordered.insert hunattached _)
    (Plane.lookup_insert hunattached _) ?_ ?_
  · intro cause hcall
    simp only [allocateAt, hvalid]
    generalize c.hardware.attach slot (c.orientation.place rect camera) format = call at hcall
    obtain ⟨result, hardware⟩ := call
    obtain rfl : result = .error cause := hcall
    rfl
  · intro hcall
    refine ⟨_, ?_, region?_setSlot hslot _⟩
    simp only [allocateAt, hvalid]
    generalize c.hardware.attach slot (c.orientation.place rect camera) format = call at hcall
    obtain ⟨result, hardware⟩ := call
    obtain rfl : result = .ok () := hcall
    simp only [if_pos hslot]
    rfl

/-- Publishing the canvas of a region. -/
theorem puts_updateRegion (hview : c.view slot = ⟨some region, some a⟩)
    (hpixels : region.published.length = a.placement.area * canvasDepth) :
    c.Puts slot
      ⟨some region, some { a with pixels := region.published, commits := a.commits + 1 }⟩
      c.hardware.committing.next (c.updateRegion slot) := by
  have hregion : c.region? slot = some region := congrArg SlotView.region hview
  have hattached : c.hardware.plane.attached? slot = some a := congrArg SlotView.attachment hview
  have hanswers := Hardware.answers_commit hattached hpixels
  have hupdate : c.updateRegion slot =
      ((c.hardware.commit slot region.published).1,
        { c with hardware := (c.hardware.commit slot region.published).2 }) := by
    simp only [updateRegion, hregion]
  refine puts_of_answers hanswers (fun hordered ↦ hordered.replace slot _)
    (Plane.lookup_replace (by rw [← Plane.attached?, hattached]; simp) _) ?_ ?_
  · intro cause hcall
    rw [hupdate, hcall]
  · intro hcall
    refine ⟨c.slots, by rw [hupdate, hcall], ?_⟩
    intro other
    split_ifs with hother
    · rw [hother]
      exact hregion
    · rfl

/-- Deleting the region in a slot. -/
theorem puts_deleteRegion (hregion : c.region? slot = some region) :
    c.Puts slot ⟨none, none⟩ c.hardware.detaching.next (c.deleteRegion slot) := by
  have hslot := lt_of_region?_eq_some hregion
  have hrange : ¬regionLimit ≤ slot := Nat.not_le.mpr hslot
  refine puts_of_answers (c.hardware.answers_detach slot) (fun hordered ↦ hordered.detach slot)
    (Plane.attached?_detach _ slot) ?_ ?_
  · intro cause hcall
    simp only [deleteRegion, if_neg hrange, hregion]
    generalize c.hardware.detach slot = call at hcall
    obtain ⟨result, hardware⟩ := call
    obtain rfl : result = .error cause := hcall
    rfl
  · intro hcall
    refine ⟨_, ?_, region?_setSlot hslot none⟩
    simp only [deleteRegion, if_neg hrange, hregion]
    generalize c.hardware.detach slot = call at hcall
    obtain ⟨result, hardware⟩ := call
    obtain rfl : result = .ok () := hcall
    rfl

theorem deleteRegion_of_free (hslot : slot < regionLimit) (hfree : c.region? slot = none) :
    c.deleteRegion slot = (.ok (), c) := by
  simp only [deleteRegion, if_neg (Nat.not_le.mpr hslot), hfree]

theorem deleteRegion_of_le (hslot : regionLimit ≤ slot) :
    c.deleteRegion slot = (.error (.regionOutOfRange slot regionLimit), c) := by
  simp only [deleteRegion, if_pos hslot]

end Compositor

end LiveCamera
