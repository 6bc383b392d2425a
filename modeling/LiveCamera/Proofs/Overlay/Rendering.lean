import LiveCamera.Proofs.Overlay.Raster
import LiveCamera.Proofs.Overlay.Rectangles
import LiveCamera.Proofs.Overlay.Slots

/-!
# What the overlay plane shows

Slots are painted in the order of their numbers.  So a pixel of the rendered plane comes from the
last slot that covers it (`pixelAt_render_of_top`), and is transparent if none does
(`pixelAt_render_of_bare`).
-/

namespace LiveCamera

namespace Plane

variable {pixels : Bytes}

/-! ## Painting -/

/-- The rows of a picture of the given size. -/
structure IsRaster (size : Size) (rows : List Bytes) : Prop where
  height : rows.length = size.height
  width : ∀ row ∈ rows, row.length = size.width * canvasDepth

theorem isRaster_blankRows (size : Size) : IsRaster size (blankRows size) where
  height := by simp [blankRows]
  width := by simp [blankRows]

theorem getElem?_overwrite {row : Bytes} {start : Nat} (h : start + pixels.length ≤ row.length)
    (i : Nat) :
    (overwrite row start pixels)[i]? =
      if start ≤ i ∧ i < start + pixels.length then pixels[i - start]? else row[i]? := by
  have hstart : (row.take start).length = start := by
    rw [List.length_take]
    omega
  unfold overwrite
  by_cases hbefore : i < start
  · rw [List.append_assoc, List.getElem?_append_left (by omega), if_neg (by omega),
      List.getElem?_take_of_lt hbefore]
  · by_cases hinside : i < start + pixels.length
    · rw [List.append_assoc, List.getElem?_append_right (by omega), hstart,
        List.getElem?_append_left (by omega), if_pos (by omega)]
    · rw [List.getElem?_append_right (by rw [List.length_append]; omega), List.length_append,
        hstart, List.getElem?_drop, if_neg (by omega)]
      congr 1
      omega

theorem length_overwrite {row : Bytes} {start : Nat} (h : start + pixels.length ≤ row.length) :
    (overwrite row start pixels).length = row.length := by
  simp only [overwrite, List.length_append, List.length_take, List.length_drop]
  omega

theorem getElem?_pixelOf (depth : Nat) (row : Bytes) (x i : Nat) :
    (pixelOf depth row x)[i]? = if i < depth then row[depth * x + i]? else none := by
  rw [pixelOf, List.getElem?_take, List.getElem?_drop]

/-- The pixels of a row over which a line was written. -/
theorem pixelOf_overwrite {row line : Bytes} {left width : Nat}
    (hline : line.length = width * canvasDepth)
    (h : left * canvasDepth + line.length ≤ row.length) (x : Nat) :
    pixelOf canvasDepth (overwrite row (left * canvasDepth) line) x =
      if left ≤ x ∧ x < left + width then pixelOf canvasDepth line (x - left)
      else pixelOf canvasDepth row x := by
  ext1 i
  unfold canvasDepth at *
  rw [getElem?_pixelOf, getElem?_overwrite h]
  by_cases hi : i < 4
  · by_cases hinside : left ≤ x ∧ x < left + width
    · rw [if_pos hi, if_pos (by omega), if_pos hinside, getElem?_pixelOf, if_pos hi]
      congr 1
      omega
    · rw [if_pos hi, if_neg (by omega), if_neg hinside, getElem?_pixelOf, if_pos hi]
  · rw [if_neg hi]
    split_ifs <;> rw [getElem?_pixelOf, if_neg hi]

end Plane

namespace Attachment

/-- Whether a slot is painted when a picture of the given size is rendered. -/
def IsShown (a : Attachment) (size : Size) : Prop :=
  a.pixels ≠ [] ∧ a.placement.fitsIn size = true

/-- Whether a slot is painted over a pixel. -/
def Covers (a : Attachment) (size : Size) (x y : Nat) : Prop :=
  a.IsShown size ∧ a.placement.contains x y = true

/-- Whether a slot shows nothing yet, or a canvas that covers it exactly. -/
def IsFilled (a : Attachment) : Prop :=
  a.pixels = [] ∨ a.pixels.length = a.placement.area * canvasDepth

end Attachment

namespace Plane

variable {p : Plane} {size : Size} {rows : List Bytes} {a : Attachment} {x y : Nat}

theorem paint_of_not_isShown (h : ¬a.IsShown size) (rows : List Bytes) :
    paint size rows a = rows := by
  have hhidden : (a.pixels.isEmpty || !a.placement.fitsIn size) = true := by
    by_contra hshown
    exact h (by simpa [Attachment.IsShown] using hshown)
  rw [paint, if_pos hhidden]

theorem paint_of_isShown (h : a.IsShown size) (rows : List Bytes) :
    paint size rows a = rows.take a.placement.y ++
      List.zipWith (fun row line ↦ overwrite row (a.placement.x * canvasDepth) line)
        ((rows.drop a.placement.y).take a.placement.h)
        (stretches (a.placement.w * canvasDepth) a.placement.h a.pixels) ++
      rows.drop (a.placement.y + a.placement.h) := by
  obtain ⟨hpixels, hfits⟩ := h
  have hshown : ¬(a.pixels.isEmpty || !a.placement.fitsIn size) = true := by
    simp [hpixels, hfits]
  rw [paint, if_neg hshown]

/-- The row of a picture that a slot was painted over. -/
theorem getElem?_paint (h : IsRaster size rows) (ha : a.IsShown size) (y : Nat) :
    (paint size rows a)[y]? =
      if a.placement.y ≤ y ∧ y < a.placement.y + a.placement.h then
        rows[y]?.map fun row ↦ overwrite row (a.placement.x * canvasDepth)
          ((a.pixels.drop (a.placement.w * canvasDepth * (y - a.placement.y))).take
            (a.placement.w * canvasDepth))
      else rows[y]? := by
  obtain ⟨-, -, hbottom, -⟩ := Rect.fitsIn_iff.mp ha.2
  have hrows := h.height
  have htop : (rows.take a.placement.y).length = a.placement.y := by
    rw [List.length_take]
    omega
  have hmiddle (f : Bytes → Bytes → Bytes) : (List.zipWith f
      ((rows.drop a.placement.y).take a.placement.h) (stretches (a.placement.w * canvasDepth)
        a.placement.h a.pixels)).length = a.placement.h := by
    rw [List.length_zipWith, List.length_take, List.length_drop, length_stretches]
    omega
  rw [paint_of_isShown ha]
  by_cases habove : y < a.placement.y
  · rw [List.append_assoc, List.getElem?_append_left (by omega), if_neg (by omega),
      List.getElem?_take_of_lt habove]
  · by_cases hinside : y < a.placement.y + a.placement.h
    · rw [List.append_assoc, List.getElem?_append_right (by omega), htop,
        List.getElem?_append_left (by rw [hmiddle]; omega), if_pos (by omega),
        List.getElem?_zipWith, List.getElem?_take_of_lt (by omega), List.getElem?_drop,
        getElem?_stretches _ _ (by omega), show a.placement.y + (y - a.placement.y) = y by omega]
      cases rows[y]? <;> rfl
    · rw [List.getElem?_append_right (by rw [List.length_append, htop, hmiddle]; omega),
        List.length_append, htop, hmiddle, List.getElem?_drop, if_neg (by omega)]
      congr 1
      omega

/-- The line of a canvas that is painted over a row has the width of its slot. -/
theorem length_line (hfull : a.pixels.length = a.placement.area * canvasDepth) (i : Nat)
    (hi : i < a.placement.h) :
    ((a.pixels.drop (a.placement.w * canvasDepth * i)).take (a.placement.w * canvasDepth)).length =
      a.placement.w * canvasDepth := by
  have hroom : a.placement.w * canvasDepth * i + a.placement.w * canvasDepth ≤
      a.placement.w * a.placement.h * canvasDepth := by
    calc
      a.placement.w * canvasDepth * i + a.placement.w * canvasDepth =
          a.placement.w * canvasDepth * (i + 1) := by ring
      _ ≤ a.placement.w * canvasDepth * a.placement.h := Nat.mul_le_mul_left _ hi
      _ = a.placement.w * a.placement.h * canvasDepth := by ring
  rw [List.length_take, List.length_drop, hfull, Rect.area]
  omega

/-- A line fits into the row that it is painted over. -/
theorem room_of_isShown {line row : Bytes} (ha : a.IsShown size)
    (hline : line.length = a.placement.w * canvasDepth)
    (hrow : row.length = size.width * canvasDepth) :
    a.placement.x * canvasDepth + line.length ≤ row.length := by
  obtain ⟨hright, -, -, -⟩ := Rect.fitsIn_iff.mp ha.2
  rw [hline, hrow, ← Nat.add_mul]
  exact Nat.mul_le_mul_right _ hright

theorem IsRaster.paint (h : IsRaster size rows) (ha : a.IsFilled) :
    IsRaster size (Plane.paint size rows a) := by
  by_cases hshown : a.IsShown size
  · obtain ⟨-, -, hbottom, -⟩ := Rect.fitsIn_iff.mp hshown.2
    have hheight := h.height
    refine ⟨?_, ?_⟩
    · rw [paint_of_isShown hshown]
      simp only [List.length_append, List.length_take, List.length_zipWith, List.length_drop,
        length_stretches]
      omega
    · intro row hrow
      obtain ⟨y, hy⟩ := List.mem_iff_getElem?.mp hrow
      rw [getElem?_paint h hshown] at hy
      split_ifs at hy with hinside
      · obtain ⟨under, hunder, rfl⟩ := Option.map_eq_some_iff.mp hy
        have hwidth := h.width under (List.mem_of_getElem? hunder)
        have hline := length_line (ha.resolve_left hshown.1) (y - a.placement.y) (by omega)
        rw [length_overwrite (room_of_isShown hshown hline hwidth), hwidth]
      · exact h.width row (List.mem_of_getElem? hy)
  · rwa [paint_of_not_isShown hshown]

/-- What painting a slot does to a pixel. -/
theorem pixelAt_paint (h : IsRaster size rows) (ha : a.IsFilled) (hx : x < size.width)
    (hy : y < size.height) :
    (a.Covers size x y → pixelAt canvasDepth size.width (paint size rows a).flatten x y =
      pixelAt canvasDepth a.placement.w a.pixels (x - a.placement.x) (y - a.placement.y)) ∧
    (¬a.Covers size x y → pixelAt canvasDepth size.width (paint size rows a).flatten x y =
      pixelAt canvasDepth size.width rows.flatten x y) := by
  have hin : y < rows.length := by rwa [h.height]
  have hunder : rows[y]? = some rows[y] := List.getElem?_eq_getElem hin
  have hbefore := pixelAt_flatten_append h.width [] hx hunder
  rw [List.append_nil] at hbefore
  by_cases hshown : a.IsShown size
  · have hcovers : a.Covers size x y ↔ (a.placement.x ≤ x ∧ x < a.placement.x + a.placement.w) ∧
        a.placement.y ≤ y ∧ y < a.placement.y + a.placement.h := by
      rw [← Rect.contains_iff_of_fitsIn hshown.2]
      exact and_iff_right hshown
    have hafter := getElem?_paint h hshown y
    rw [hunder, Option.map_some] at hafter
    by_cases hvertical : a.placement.y ≤ y ∧ y < a.placement.y + a.placement.h
    -- The row was painted over, so the pixel is that of the line if it lies in it.
    · rw [if_pos hvertical] at hafter
      have hpixel := pixelAt_flatten_append (h.paint ha).width [] hx hafter
      have hline := length_line (ha.resolve_left hshown.1) (y - a.placement.y) (by omega)
      have hwidth := h.width rows[y] (List.getElem_mem hin)
      rw [List.append_nil, pixelOf_overwrite hline (room_of_isShown hshown hline hwidth)] at hpixel
      refine ⟨fun hpos ↦ ?_, fun hneg ↦ ?_⟩
      · have hhorizontal := (hcovers.mp hpos).1
        rw [hpixel, if_pos hhorizontal, pixelAt_eq_pixelOf a.pixels (by omega)]
      · have hhorizontal : ¬(a.placement.x ≤ x ∧ x < a.placement.x + a.placement.w) :=
          fun hhorizontal ↦ hneg (hcovers.mpr ⟨hhorizontal, hvertical⟩)
        rw [hpixel, if_neg hhorizontal, hbefore]
    · rw [if_neg hvertical] at hafter
      have hpixel := pixelAt_flatten_append (h.paint ha).width [] hx hafter
      rw [List.append_nil, ← hbefore] at hpixel
      exact ⟨fun hpos ↦ absurd (hcovers.mp hpos).2 hvertical, fun _ ↦ hpixel⟩
  · rw [paint_of_not_isShown hshown]
    exact ⟨fun hcovers ↦ absurd hcovers.1 hshown, fun _ ↦ rfl⟩

/-! ## Rendering -/

theorem IsRaster.foldl_paint (h : IsRaster size rows) {attachments : List Attachment}
    (hfilled : ∀ a ∈ attachments, a.IsFilled) :
    IsRaster size (attachments.foldl (Plane.paint size) rows) := by
  induction attachments generalizing rows with
  | nil => exact h
  | cons a rest ih =>
    exact ih (h.paint (hfilled a List.mem_cons_self)) fun other hother ↦
      hfilled other (List.mem_cons_of_mem a hother)

/-- Slots that do not cover a pixel leave it as it was. -/
theorem pixelAt_foldl_paint_of_bare (h : IsRaster size rows) {attachments : List Attachment}
    (hfilled : ∀ a ∈ attachments, a.IsFilled) (hbare : ∀ a ∈ attachments, ¬a.Covers size x y)
    (hx : x < size.width) (hy : y < size.height) :
    pixelAt canvasDepth size.width (attachments.foldl (paint size) rows).flatten x y =
      pixelAt canvasDepth size.width rows.flatten x y := by
  induction attachments generalizing rows with
  | nil => rfl
  | cons a rest ih =>
    have ha := hfilled a List.mem_cons_self
    rw [List.foldl_cons, ih (h.paint ha) (fun b hb ↦ hfilled b (List.mem_cons_of_mem a hb))
      fun b hb ↦ hbare b (List.mem_cons_of_mem a hb)]
    exact (pixelAt_paint h ha hx hy).2 (hbare a List.mem_cons_self)

/-- All slots in use show nothing yet or a canvas of their size. -/
def IsFilled (p : Plane) : Prop := ∀ slot a, p.attached? slot = some a → a.IsFilled

theorem IsFilled.of_mem (h : p.IsFilled) (hordered : p.Ordered) {attachments : List Attachment}
    (hsub : attachments ⊆ p.slots.map (·.2)) : ∀ a ∈ attachments, a.IsFilled := by
  intro a ha
  obtain ⟨s, hs, rfl⟩ := List.mem_map.mp (hsub ha)
  exact h s.1 s.2 (hordered.attached?_of_mem hs)

/-- The rendered plane is a picture of the size asked for. -/
theorem length_render (h : p.IsFilled) (hordered : p.Ordered) (size : Size) :
    (p.render size).length = size.height * (size.width * canvasDepth) := by
  have hraster : IsRaster size (p.renderRows size) :=
    (isRaster_blankRows size).foldl_paint (h.of_mem hordered (List.Subset.refl _))
  rw [render, length_flatten_of_length hraster.width, hraster.height]

/-- A pixel comes from the last slot that covers it. -/
theorem pixelAt_render_of_top (h : p.IsFilled) (hordered : p.Ordered) {slot : Nat}
    (ha : p.attached? slot = some a) (hcovers : a.Covers size x y)
    (hlast : ∀ later b, slot < later → p.attached? later = some b → ¬b.Covers size x y)
    (hx : x < size.width) (hy : y < size.height) :
    pixelAt canvasDepth size.width (p.render size) x y =
      pixelAt canvasDepth a.placement.w a.pixels (x - a.placement.x) (y - a.placement.y) := by
  obtain ⟨lower, upper, hslots, -⟩ := List.lookup_eq_some_iff.mp ha
  have hupper : ∀ b ∈ upper.map (·.2), ¬b.Covers size x y := by
    intro b hb
    obtain ⟨s, hs, rfl⟩ := List.mem_map.mp hb
    have hmem : s ∈ p.slots := by simp [hslots, hs]
    have hlater : slot < s.1 := by
      have hpairwise := hordered
      rw [Ordered, hslots] at hpairwise
      exact (List.pairwise_cons.mp (List.pairwise_append.mp hpairwise).2.1).1 s hs
    exact hlast s.1 s.2 hlater (hordered.attached?_of_mem hmem)
  have hsplit : p.slots.map (·.2) = lower.map (·.2) ++ a :: upper.map (·.2) := by simp [hslots]
  have hbelow : IsRaster size ((lower.map (·.2)).foldl (paint size) (blankRows size)) :=
    (isRaster_blankRows size).foldl_paint (h.of_mem hordered (by simp [hsplit]))
  have hself : a.IsFilled := h slot a ha
  rw [render, renderRows, hsplit, List.foldl_append, List.foldl_cons,
    pixelAt_foldl_paint_of_bare (hbelow.paint hself) (h.of_mem hordered (by simp [hsplit])) hupper
      hx hy]
  exact (pixelAt_paint hbelow hself hx hy).1 hcovers

/-- A pixel that no slot covers is transparent. -/
theorem pixelAt_render_of_bare (h : p.IsFilled) (hordered : p.Ordered)
    (hbare : ∀ slot a, p.attached? slot = some a → ¬a.Covers size x y)
    (hx : x < size.width) (hy : y < size.height) :
    pixelAt canvasDepth size.width (p.render size) x y = List.replicate canvasDepth 0 := by
  have hnone : ∀ a ∈ p.slots.map (·.2), ¬a.Covers size x y := by
    intro a ha
    obtain ⟨s, hs, rfl⟩ := List.mem_map.mp ha
    exact hbare s.1 s.2 (hordered.attached?_of_mem hs)
  have hrow : (blankRows size)[y]? = some (List.replicate (size.width * canvasDepth) 0) := by
    simp [blankRows, hy]
  have hroom : canvasDepth * x + canvasDepth ≤ size.width * canvasDepth := by
    rw [Nat.mul_comm size.width, ← Nat.mul_succ]
    exact Nat.mul_le_mul_left canvasDepth hx
  have hblank := pixelAt_flatten_append (isRaster_blankRows size).width [] hx hrow
  rw [List.append_nil] at hblank
  rw [render, renderRows, pixelAt_foldl_paint_of_bare (isRaster_blankRows size)
    (h.of_mem hordered (List.Subset.refl _)) hnone hx hy, hblank, pixelOf, List.drop_replicate,
    List.take_replicate, Nat.min_eq_left (by omega)]

end Plane

end LiveCamera
