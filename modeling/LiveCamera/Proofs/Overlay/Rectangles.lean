import LiveCamera.Overlay.Compositor
import Mathlib.Order.MinMax
import Mathlib.Tactic.SplitIfs

/-!
# Rectangles inside a picture

A rectangle that lies inside a picture stays inside when the orientation moves it, and covers the
mirror images of the pixels that it covered (`contains_place`).  The part of a rectangle inside a
picture, and the strips that paint its border, lie inside as well.  The strips do not overlap, and
cover the pixels that are close to an edge (`exists_mem_borderStrips_contains`).
-/

namespace LiveCamera

namespace Rect

variable {r : Rect} {bounds : Size}

theorem fitsIn_iff : r.fitsIn bounds = true ↔
    r.x + r.w ≤ bounds.width ∧ r.x + r.w ≤ maxCoordinate ∧
      r.y + r.h ≤ bounds.height ∧ r.y + r.h ≤ maxCoordinate := by
  simp only [fitsIn, Bool.and_eq_true, decide_eq_true_eq]
  omega

theorem isEmpty_eq_false_iff : r.isEmpty = false ↔ r.w ≠ 0 ∧ r.h ≠ 0 := by
  simp [isEmpty]

theorem right_of_fitsIn (h : r.fitsIn bounds = true) : r.right = r.x + r.w :=
  Nat.min_eq_left (fitsIn_iff.mp h).2.1

theorem bottom_of_fitsIn (h : r.fitsIn bounds = true) : r.bottom = r.y + r.h :=
  Nat.min_eq_left (fitsIn_iff.mp h).2.2.2

theorem contains_iff_of_fitsIn (h : r.fitsIn bounds = true) (x y : Nat) :
    r.contains x y = true ↔ (r.x ≤ x ∧ x < r.x + r.w) ∧ r.y ≤ y ∧ y < r.y + r.h := by
  simp only [contains, right_of_fitsIn h, bottom_of_fitsIn h, Bool.and_eq_true, decide_eq_true_eq,
    and_assoc]

theorem clampAxis_le (start length : Int) (limit : Nat) :
    (clampAxis start length limit).1 + (clampAxis start length limit).2 ≤ limit := by
  simp only [clampAxis]
  omega

/-- The part of a rectangle inside a picture fits it. -/
theorem fitsIn_clamp (hwidth : bounds.width ≤ maxCoordinate)
    (hheight : bounds.height ≤ maxCoordinate) (x y w h : Int) :
    (clamp x y w h bounds).fitsIn bounds = true := by
  have hhorizontal := clampAxis_le x w bounds.width
  have hvertical := clampAxis_le y h bounds.height
  rw [fitsIn_iff]
  simp only [clamp]
  omega

theorem mem_clampAxis_iff (start length : Int) (limit p : Nat) :
    (clampAxis start length limit).1 ≤ p ∧
        p < (clampAxis start length limit).1 + (clampAxis start length limit).2 ↔
      start ≤ p ∧ p < start + length ∧ p < limit := by
  simp only [clampAxis]
  omega

/-- A clipped rectangle covers the pixels of the picture that the rectangle covers. -/
theorem contains_clamp (hwidth : bounds.width ≤ maxCoordinate)
    (hheight : bounds.height ≤ maxCoordinate) (x y w h : Int) (px py : Nat) :
    (clamp x y w h bounds).contains px py = true ↔
      (x ≤ px ∧ px < x + w ∧ px < bounds.width) ∧ y ≤ py ∧ py < y + h ∧ py < bounds.height := by
  rw [contains_iff_of_fitsIn (fitsIn_clamp hwidth hheight x y w h)]
  exact and_congr (mem_clampAxis_iff x w bounds.width px) (mem_clampAxis_iff y h bounds.height py)

/-- A rectangle is empty if it covers no pixel. -/
theorem isEmpty_eq_false_iff_exists_contains (h : r.fitsIn bounds = true) :
    r.isEmpty = false ↔ ∃ px py, r.contains px py = true := by
  simp only [contains_iff_of_fitsIn h, isEmpty_eq_false_iff]
  constructor
  · intro hempty
    exact ⟨r.x, r.y, by omega⟩
  · rintro ⟨px, py, hcontains⟩
    omega

/-- No pixel is covered by both rectangles. -/
def Disjoint (a b : Rect) : Prop :=
  ∀ px py, a.contains px py = true → b.contains px py = false

theorem Disjoint.symm {a b : Rect} (h : a.Disjoint b) : b.Disjoint a := by
  intro px py hb
  rw [Bool.eq_false_iff]
  intro ha
  rw [h px py ha] at hb
  cases hb

theorem disjoint_of_left {a b : Rect} (h : a.x + a.w ≤ b.x) : a.Disjoint b := by
  intro px py ha
  rw [Bool.eq_false_iff]
  intro hb
  simp only [contains, right, Bool.and_eq_true, decide_eq_true_eq, Nat.lt_min] at ha hb
  omega

theorem disjoint_of_above {a b : Rect} (h : a.y + a.h ≤ b.y) : a.Disjoint b := by
  intro px py ha
  rw [Bool.eq_false_iff]
  intro hb
  simp only [contains, bottom, Bool.and_eq_true, decide_eq_true_eq, Nat.lt_min] at ha hb
  omega

/-- How many pixels lie between a pixel of a rectangle and the closest of the four edges. -/
def edgeDistance (r : Rect) (px py : Nat) : Nat :=
  min (min (px - r.x) (r.x + r.w - 1 - px)) (min (py - r.y) (r.y + r.h - 1 - py))

theorem edgeDistance_lt_iff {px py t : Nat} (hx : r.x ≤ px ∧ px < r.x + r.w)
    (hy : r.y ≤ py ∧ py < r.y + r.h) : r.edgeDistance px py < t ↔
      (px < r.x + t ∨ r.x + r.w ≤ px + t) ∨ py < r.y + t ∨ r.y + r.h ≤ py + t := by
  have hleft : px - r.x < t ↔ px < r.x + t := by omega
  have hright : r.x + r.w - 1 - px < t ↔ r.x + r.w ≤ px + t := by omega
  have hupper : py - r.y < t ↔ py < r.y + t := by omega
  have hlower : r.y + r.h - 1 - py < t ↔ r.y + r.h ≤ py + t := by omega
  simp only [edgeDistance, min_lt_iff, hleft, hright, hupper, hlower]

end Rect

namespace Orientation

variable {rect : Rect} {bounds : Size}

@[simp] theorem place_w (o : Orientation) (rect : Rect) (bounds : Size) :
    (o.place rect bounds).w = rect.w := rfl

@[simp] theorem place_h (o : Orientation) (rect : Rect) (bounds : Size) :
    (o.place rect bounds).h = rect.h := rfl

theorem fitsIn_place (o : Orientation) (hwidth : bounds.width ≤ Rect.maxCoordinate)
    (hheight : bounds.height ≤ Rect.maxCoordinate) (h : rect.fitsIn bounds = true) :
    (o.place rect bounds).fitsIn bounds = true := by
  rw [Rect.fitsIn_iff] at *
  simp only [place]
  split_ifs <;> omega

end Orientation

namespace Compositor

theorem length_borderStrips (rect : Rect) (thickness : Int) :
    (borderStrips rect thickness).length ≤ rectangleSlots := by
  unfold borderStrips rectangleSlots
  dsimp only
  split_ifs <;> simp

/-- The strips of a border can be shown wherever the rectangle can. -/
theorem fitsIn_of_mem_borderStrips {rect strip : Rect} {bounds : Size} {thickness : Int}
    (hempty : rect.isEmpty = false) (hfits : rect.fitsIn bounds = true)
    (h : strip ∈ borderStrips rect thickness) :
    strip.isEmpty = false ∧ strip.fitsIn bounds = true := by
  unfold borderStrips at h
  dsimp only at h
  split_ifs at h with hwhole
  · obtain rfl := List.mem_singleton.mp h
    exact ⟨hempty, hfits⟩
  · rw [Rect.right_of_fitsIn hfits, Rect.bottom_of_fitsIn hfits] at h
    rw [Rect.isEmpty_eq_false_iff] at *
    rw [Rect.fitsIn_iff] at *
    simp only [List.mem_cons, List.not_mem_nil, or_false] at h
    rcases h with rfl | rfl | rfl | rfl <;> dsimp only <;> omega

/-- Whether a border of this thickness leaves room inside of the rectangle. -/
def HasBorder (rect : Rect) (thickness : Int) : Prop :=
  0 < thickness ∧ thickness < (min rect.w rect.h / 2 : Nat)

variable {rect : Rect} {bounds : Size} {thickness : Int}

theorem HasBorder.two_mul_le {rect : Rect} {thickness : Int} (h : HasBorder rect thickness) :
    2 * thickness.toNat ≤ rect.w ∧ 2 * thickness.toNat ≤ rect.h := by
  unfold HasBorder at h
  omega

theorem borderStrips_of_not_hasBorder (h : ¬HasBorder rect thickness) :
    borderStrips rect thickness = [rect] := by
  unfold HasBorder at h
  unfold borderStrips
  exact if_pos (by omega)

theorem borderStrips_of_hasBorder (h : HasBorder rect thickness) (hfits : rect.fitsIn bounds = true) :
    borderStrips rect thickness =
      [⟨rect.x, rect.y, rect.w, thickness.toNat⟩,
        ⟨rect.x, rect.y + rect.h - thickness.toNat, rect.w, thickness.toNat⟩,
        ⟨rect.x, rect.y + thickness.toNat, thickness.toNat, rect.h - 2 * thickness.toNat⟩,
        ⟨rect.x + rect.w - thickness.toNat, rect.y + thickness.toNat, thickness.toNat,
          rect.h - 2 * thickness.toNat⟩] := by
  unfold HasBorder at h
  unfold borderStrips
  dsimp only
  rw [if_neg (by omega), Rect.right_of_fitsIn hfits, Rect.bottom_of_fitsIn hfits]

/-- The strips of a border cover the pixels close to an edge; without room for a border all of the
rectangle is covered. -/
theorem exists_mem_borderStrips_contains (hempty : rect.isEmpty = false)
    (hfits : rect.fitsIn bounds = true) (thickness : Int) (px py : Nat) :
    (∃ strip ∈ borderStrips rect thickness, strip.contains px py = true) ↔
      rect.contains px py = true ∧
        (HasBorder rect thickness → (rect.edgeDistance px py : Int) < thickness) := by
  by_cases hborder : HasBorder rect thickness
  · have hcontains : ∀ strip ∈ borderStrips rect thickness, (strip.contains px py = true ↔
        (strip.x ≤ px ∧ px < strip.x + strip.w) ∧ strip.y ≤ py ∧ py < strip.y + strip.h) :=
      fun strip hstrip ↦
        Rect.contains_iff_of_fitsIn (fitsIn_of_mem_borderStrips hempty hfits hstrip).2 px py
    rw [borderStrips_of_hasBorder hborder hfits] at *
    obtain ⟨hupper, hlower, hleft, hright, -⟩ := by
      simpa only [List.forall_mem_cons] using hcontains
    simp only [List.mem_cons, List.not_mem_nil, or_false, exists_eq_or_imp, exists_eq_left]
    rw [hupper, hlower, hleft, hright, Rect.contains_iff_of_fitsIn hfits]
    obtain ⟨hwidth, hheight⟩ := hborder.two_mul_le
    have hclose : (HasBorder rect thickness → (rect.edgeDistance px py : Int) < thickness) ↔
        rect.edgeDistance px py < thickness.toNat := by
      rw [Int.lt_toNat]
      exact forall_prop_of_true hborder
    rw [hclose]
    generalize thickness.toNat = t at *
    constructor
    · intro hstrips
      have hx : rect.x ≤ px ∧ px < rect.x + rect.w := by
        rcases hstrips with hstrip | hstrip | hstrip | hstrip <;> omega
      have hy : rect.y ≤ py ∧ py < rect.y + rect.h := by
        rcases hstrips with hstrip | hstrip | hstrip | hstrip <;> omega
      refine ⟨⟨hx, hy⟩, (Rect.edgeDistance_lt_iff hx hy).mpr ?_⟩
      rcases hstrips with hstrip | hstrip | hstrip | hstrip <;> omega
    · rintro ⟨⟨hx, hy⟩, hclose⟩
      -- The horizontal strips take the corners.
      rcases (Rect.edgeDistance_lt_iff hx hy).mp hclose with hsides | hupper | hlower
      · by_cases hupper : py < rect.y + t
        · exact .inl ⟨hx, hy.1, hupper⟩
        · by_cases hlower : rect.y + rect.h ≤ py + t
          · exact .inr (.inl ⟨hx, by omega, by omega⟩)
          · rcases hsides with hleft | hright
            · exact .inr (.inr (.inl ⟨⟨hx.1, hleft⟩, by omega, by omega⟩))
            · exact .inr (.inr (.inr ⟨⟨by omega, by omega⟩, by omega, by omega⟩))
      · exact .inl ⟨hx, hy.1, hupper⟩
      · exact .inr (.inl ⟨hx, by omega, by omega⟩)
  · simp [borderStrips_of_not_hasBorder hborder, hborder]

/-- The strips of a border do not overlap. -/
theorem pairwise_disjoint_borderStrips (hfits : rect.fitsIn bounds = true) (thickness : Int) :
    (borderStrips rect thickness).Pairwise Rect.Disjoint := by
  by_cases hborder : HasBorder rect thickness
  · obtain ⟨hwidth, hheight⟩ := hborder.two_mul_le
    rw [borderStrips_of_hasBorder hborder hfits]
    generalize thickness.toNat = t at *
    simp only [List.pairwise_cons, List.forall_mem_cons, List.not_mem_nil, false_imp_iff,
      implies_true, and_true, List.Pairwise.nil]
    refine ⟨⟨?upperLower, ?upperLeft, ?upperRight⟩, ⟨?lowerLeft, ?lowerRight⟩, ?leftRight⟩
    case upperLower =>
      apply Rect.disjoint_of_above
      dsimp only
      omega
    case upperLeft => exact Rect.disjoint_of_above (Nat.le_refl _)
    case upperRight => exact Rect.disjoint_of_above (Nat.le_refl _)
    case lowerLeft =>
      apply Rect.Disjoint.symm
      apply Rect.disjoint_of_above
      dsimp only
      omega
    case lowerRight =>
      apply Rect.Disjoint.symm
      apply Rect.disjoint_of_above
      dsimp only
      omega
    case leftRight =>
      apply Rect.disjoint_of_left
      dsimp only
      omega
  · rw [borderStrips_of_not_hasBorder hborder]
    exact List.pairwise_singleton _ _

end Compositor

end LiveCamera
