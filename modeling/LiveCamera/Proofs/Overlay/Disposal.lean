import LiveCamera.Proofs.Overlay.Table

/-!
# Giving up a compositor

When a compositor is given up its slots are released one after the other, in the order of their
numbers, and the first one that the hardware does not release ends it.  So a slot stays attached if
its own release fails, or that of a slot before it (`dispose_keeps`): where the last release is not
the only one that fails, slots are left behind that nobody tried to release
(`not_always_released`).
-/

namespace LiveCamera

namespace Verdicts

/-- The call with this number, or one before it, is made to fail. -/
def FailsBy (v : Verdicts) (i : Nat) : Prop := ∃ j ≤ i, ∃ cause, v[j]? = some (some cause)

variable {v : Verdicts} {i : Nat}

theorem failsBy_of_next {cause : Failure} (h : v.next = some cause) (i : Nat) : v.FailsBy i := by
  cases v with
  | nil => cases h
  | cons first rest =>
    obtain rfl : first = some cause := by simpa [next] using h
    exact ⟨0, Nat.zero_le i, cause, rfl⟩

theorem not_failsBy_zero (h : v.next = none) : ¬v.FailsBy 0 := by
  rintro ⟨j, hj, cause, hcause⟩
  obtain rfl := Nat.le_zero.mp hj
  rw [next, List.head?_eq_getElem?, hcause] at h
  cases h

/-- Where the next call works, the later ones decide. -/
theorem failsBy_succ_iff (h : v.next = none) : v.FailsBy (i + 1) ↔ FailsBy v.tail i := by
  constructor
  · rintro ⟨j, hj, cause, hcause⟩
    cases j with
    | zero => exact absurd ⟨0, Nat.le_refl 0, cause, hcause⟩ (not_failsBy_zero h)
    | succ j => exact ⟨j, Nat.le_of_succ_le_succ hj, cause, by rwa [List.getElem?_tail]⟩
  · rintro ⟨j, hj, cause, hcause⟩
    exact ⟨j + 1, Nat.succ_le_succ hj, cause, by rwa [List.getElem?_tail] at hcause⟩

end Verdicts

namespace Compositor

variable {c : Compositor} {slot id : Nat} {region : Region}

theorem detaching_deleteRegion (hregion : c.region? id = some region) :
    (c.deleteRegion id).2.hardware.detaching = c.hardware.detaching.tail := by
  have hid := lt_of_region?_eq_some hregion
  simp only [deleteRegion, if_neg (Nat.not_le.mpr hid), hregion, Hardware.detach]
  rcases c.hardware.detaching with _ | ⟨_ | cause, rest⟩ <;> rfl

/-- A release that fails changes no slot. -/
theorem view_deleteRegion_of_fails {cause : Failure} (hregion : c.region? id = some region)
    (hverdict : c.hardware.detaching.next = some cause) :
    (c.deleteRegion id).1 = .error cause ∧
      ∀ slot, (c.deleteRegion id).2.view slot = c.view slot := by
  have hputs := puts_deleteRegion hregion
  rw [hverdict] at hputs
  obtain ⟨hresult, -, hsets⟩ := hputs.error
  refine ⟨hresult, ?_⟩
  intro slot
  rw [hsets.view]
  split_ifs with hself
  · rw [hself]
  · rfl

/-- The slots among some that are allocated. -/
def allocatedIn (c : Compositor) (ids : List Nat) : List Nat :=
  ids.filter fun id ↦ (c.region? id).isSome

theorem allocated_eq_allocatedIn (c : Compositor) :
    c.allocated = c.allocatedIn (List.range regionLimit) := rfl

theorem allocatedIn_cons_of_free (hregion : c.region? id = none) (rest : List Nat) :
    c.allocatedIn (id :: rest) = c.allocatedIn rest :=
  List.filter_cons_of_neg (by simp [hregion])

theorem allocatedIn_cons (hregion : c.region? id = some region) (rest : List Nat) :
    c.allocatedIn (id :: rest) = id :: c.allocatedIn rest :=
  List.filter_cons_of_pos (by simp [hregion])

theorem allocatedIn_congr {after : Compositor} {ids : List Nat}
    (h : ∀ id ∈ ids, after.region? id = c.region? id) : after.allocatedIn ids = c.allocatedIn ids :=
  List.filter_congr fun id hid ↦ by rw [h id hid]

/-- Deleting slots in order releases the allocated ones before the first whose release fails. -/
theorem view_deleteRegions_eq (c : Compositor) {ids : List Nat}
    (hids : ∀ id ∈ ids, id < regionLimit) (hnodup : ids.Nodup) :
    (∀ i slot, (c.allocatedIn ids)[i]? = some slot → ¬c.hardware.detaching.FailsBy i →
      (c.deleteRegions ids).2.view slot = ⟨none, none⟩) ∧
    ∀ slot, (∀ i, (c.allocatedIn ids)[i]? = some slot → c.hardware.detaching.FailsBy i) →
      (c.deleteRegions ids).2.view slot = c.view slot := by
  induction ids generalizing c with
  | nil => exact ⟨fun _ _ hslot ↦ (nomatch hslot), fun _ _ ↦ rfl⟩
  | cons id rest ih =>
    obtain ⟨hfresh, hrest⟩ := List.nodup_cons.mp hnodup
    have hlater := fun other hother ↦ hids other (List.mem_cons_of_mem id hother)
    rw [deleteRegions_cons]
    cases hregion : c.region? id with
    | none =>
      rw [deleteRegion_of_free (hids id List.mem_cons_self) hregion, andThen_of_ok rfl,
        allocatedIn_cons_of_free hregion]
      exact ih c hlater hrest
    | some region =>
      rw [allocatedIn_cons hregion]
      cases hverdict : c.hardware.detaching.next with
      | some cause =>
        obtain ⟨hresult, hview⟩ := view_deleteRegion_of_fails hregion hverdict
        rw [andThen_of_error hresult]
        exact ⟨fun i _ _ hworks ↦ absurd (Verdicts.failsBy_of_next hverdict i) hworks,
          fun slot _ ↦ hview slot⟩
      | none =>
        have hputs := puts_deleteRegion hregion
        rw [hverdict] at hputs
        obtain ⟨hresult, hsets⟩ := hputs.ok
        have hothers : ∀ other ∈ rest, (c.deleteRegion id).2.region? other = c.region? other := by
          intro other hother
          refine congrArg SlotView.region (hsets.view_of_ne ?_)
          rintro rfl
          exact hfresh hother
        obtain ⟨hreleased, hkept⟩ := ih (c.deleteRegion id).2 hlater hrest
        rw [allocatedIn_congr hothers, detaching_deleteRegion hregion] at hreleased hkept
        rw [andThen_of_ok hresult]
        refine ⟨?_, ?_⟩
        · intro i slot hslot hworks
          cases i with
          | zero =>
            obtain rfl : id = slot := by simpa using hslot
            rw [hkept id, hsets.view_self]
            intro i hi
            exact absurd (List.mem_filter.mp (List.mem_of_getElem? hi)).1 hfresh
          | succ i =>
            exact hreleased i slot (by simpa using hslot)
              ((Verdicts.failsBy_succ_iff hverdict).not.mp hworks)
        · intro slot hslot
          have hself : slot ≠ id := by
            rintro rfl
            exact Verdicts.not_failsBy_zero hverdict (hslot 0 rfl)
          rw [hkept slot, hsets.view_of_ne hself]
          intro i hi
          exact (Verdicts.failsBy_succ_iff hverdict).mp (hslot (i + 1) (by simpa using hi))

theorem mem_allocated_iff : slot ∈ c.allocated ↔ ∃ region, c.region? slot = some region := by
  rw [allocated, List.mem_filter, List.mem_range, Option.isSome_iff_exists]
  constructor
  · exact And.right
  · rintro ⟨region, hregion⟩
    exact ⟨lt_of_region?_eq_some hregion, region, hregion⟩

theorem nodup_allocated (c : Compositor) : c.allocated.Nodup := List.nodup_range.filter _

/-- A slot of the table is attached just when it is allocated. -/
theorem InStep.mem_allocated (h : c.InStep) {a : Attachment}
    (ha : c.hardware.plane.attached? slot = some a) : slot ∈ c.allocated := by
  rw [mem_allocated_iff, ← Option.ne_none_iff_exists']
  intro hnone
  have hfree := congrArg SlotView.attachment (h.view_of_free hnone)
  rw [view, ha] at hfree
  cases hfree

/-- What stays attached when a compositor is given up. -/
theorem InStep.attached?_dispose (h : c.InStep) (slot : Nat) (a : Attachment) :
    c.dispose.plane.attached? slot = some a ↔
      c.hardware.plane.attached? slot = some a ∧
        ∃ i, c.allocated[i]? = some slot ∧ c.hardware.detaching.FailsBy i := by
  obtain ⟨hreleased, hkept⟩ := c.view_deleteRegions_eq (fun id hid ↦ List.mem_range.mp hid)
    (List.nodup_range (n := regionLimit))
  rw [← allocated_eq_allocatedIn] at hreleased hkept
  constructor
  · intro ha
    have hall : ∀ i, c.allocated[i]? = some slot → c.hardware.detaching.FailsBy i := by
      intro i hi
      by_contra hworks
      have hnone := congrArg SlotView.attachment (hreleased i slot hi hworks)
      rw [view, show (c.deleteRegions (List.range regionLimit)).2.hardware = c.dispose from rfl,
        ha] at hnone
      cases hnone
    have hsame : c.dispose.plane.attached? slot = c.hardware.plane.attached? slot :=
      congrArg SlotView.attachment (hkept slot hall)
    rw [hsame] at ha
    obtain ⟨i, hi⟩ := List.mem_iff_getElem?.mp (h.mem_allocated ha)
    exact ⟨ha, i, hi, hall i hi⟩
  · rintro ⟨ha, i, hi, hfails⟩
    have hall : ∀ j, c.allocated[j]? = some slot → c.hardware.detaching.FailsBy j := by
      intro j hj
      obtain ⟨hlength, -⟩ := List.getElem?_eq_some_iff.mp hi
      obtain rfl := (List.getElem?_inj hlength c.nodup_allocated).mp (hi.trans hj.symm)
      exact hfails
    have hsame : c.dispose.plane.attached? slot = c.hardware.plane.attached? slot :=
      congrArg SlotView.attachment (hkept slot hall)
    rw [hsame, ha]

/-- If no release but the last one fails, a slot stays attached only if its own release fails. -/
theorem InStep.exists_detaching_eq (h : c.InStep)
    (hlast : ∀ i, c.hardware.detaching.FailsBy i → c.allocated.length ≤ i + 1) {a : Attachment}
    (ha : c.dispose.plane.attached? slot = some a) :
    ∃ (i : Nat) (cause : Failure),
      c.allocated[i]? = some slot ∧ c.hardware.detaching[i]? = some (some cause) := by
  obtain ⟨-, i, hi, j, hj, cause, hcause⟩ := (h.attached?_dispose slot a).mp ha
  have hlength := hlast j ⟨j, Nat.le_refl j, cause, hcause⟩
  obtain ⟨hindex, -⟩ := List.getElem?_eq_some_iff.mp hi
  obtain rfl : j = i := by omega
  exact ⟨j, cause, hi, hcause⟩

/-- Past the end of the table nothing is attached. -/
theorem InStep.attached?_of_le (h : c.InStep) (hslot : regionLimit ≤ slot) :
    c.hardware.plane.attached? slot = none :=
  congrArg SlotView.attachment (h.view_of_free (region?_of_le c hslot))

/-- A compositor is given up after any requests, whatever calls of the hardware were made to fail.
A slot is still attached then, and as it was, exactly if it was allocated and its release or that of
an allocated slot before it fails.  So if only the last release fails, the only slot that is still
attached is the one whose own release failed.  Past the end of the table no slot is attached, before
or after. -/
theorem dispose_keeps (o : Orientation) (attaching committing detaching : Verdicts)
    (requests : List Request) :
    let c := (new o ⟨.empty, attaching, committing, detaching⟩).performAll requests
    let left := c.dispose.plane
    (∀ slot a, left.attached? slot = some a ↔
      c.hardware.plane.attached? slot = some a ∧
        ∃ i, c.allocated[i]? = some slot ∧ c.hardware.detaching.FailsBy i) ∧
    ((∀ i, c.hardware.detaching.FailsBy i → c.allocated.length ≤ i + 1) →
      ∀ slot a, left.attached? slot = some a →
        ∃ (i : Nat) (cause : Failure),
          c.allocated[i]? = some slot ∧ c.hardware.detaching[i]? = some (some cause)) ∧
    ∀ slot, regionLimit ≤ slot →
      left.attached? slot = none ∧ c.hardware.plane.attached? slot = none := by
  intro c left
  have hinStep : c.InStep :=
    ((inStep_new o attaching committing detaching).performAll requests).inStep
  refine ⟨hinStep.attached?_dispose, fun hlast slot a ↦ hinStep.exists_detaching_eq hlast, ?_⟩
  intro slot hslot
  have hnone := hinStep.attached?_of_le hslot
  refine ⟨?_, hnone⟩
  cases hleft : left.attached? slot with
  | none => rfl
  | some a =>
    obtain ⟨hattached, -⟩ := (hinStep.attached?_dispose slot a).mp hleft
    exact nomatch hattached.symm.trans hnone

/-- The second of three releases fails, so the third is not tried. -/
theorem dispose_keeps_second_failure :
    let c := (new .natural ⟨.empty, [], [], [none, some .databaseFailed]⟩).performAll
      [.bind ⟨8, 6⟩, .add ⟨0, 0, 2, 1⟩ .bgra8888, .add ⟨2, 0, 2, 1⟩ .bgra8888,
        .add ⟨4, 0, 2, 1⟩ .bgra8888]
    c.dispose.plane.attached? 0 = none ∧
      c.dispose.plane.attached? 2 = some ⟨⟨4, 0, 2, 1⟩, .bgra8888, [], 0⟩ := by
  intro c
  obtain ⟨hslots, -, -⟩ := dispose_keeps .natural [] [] [none, some .databaseFailed]
    [.bind ⟨8, 6⟩, .add ⟨0, 0, 2, 1⟩ .bgra8888, .add ⟨2, 0, 2, 1⟩ .bgra8888,
      .add ⟨4, 0, 2, 1⟩ .bgra8888]
  refine ⟨by decide +kernel, (hslots 2 _).mpr ⟨by decide +kernel, 2, ?_, ?_⟩⟩
  · decide +kernel
  · exact ⟨1, by decide, .databaseFailed, rfl⟩

/-- Giving up a compositor does not always release every slot whose own release would work. -/
theorem not_always_released :
    ¬∀ (detaching : Verdicts) (requests : List Request),
      let c := (new .natural ⟨.empty, [], [], detaching⟩).performAll requests
      ∀ slot a, c.dispose.plane.attached? slot = some a →
        ∃ (i : Nat) (cause : Failure),
          c.allocated[i]? = some slot ∧ c.hardware.detaching[i]? = some (some cause) := by
  intro hall
  let requests : List Request :=
    [.bind ⟨8, 6⟩, .add ⟨0, 0, 2, 1⟩ .bgra8888, .add ⟨2, 0, 2, 1⟩ .bgra8888]
  obtain ⟨i, cause, hi, hcause⟩ := hall [some (.reported .runtime "detach failed")] requests 1
    ⟨⟨2, 0, 2, 1⟩, .bgra8888, [], 0⟩ (by decide +kernel)
  have hallocated : ((new .natural ⟨.empty, [], [],
      [some (.reported .runtime "detach failed")]⟩).performAll requests).allocated = [0, 1] := by
    decide +kernel
  rw [hallocated] at hi
  cases i with
  | zero => cases hi
  | succ i => cases hcause

end Compositor

end LiveCamera
