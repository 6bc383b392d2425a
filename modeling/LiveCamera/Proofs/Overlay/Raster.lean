import LiveCamera.Overlay.Orientation
import Mathlib.Tactic.Ring
import Mathlib.Tactic.SplitIfs

/-!
# Pixels of a picture

Pictures and canvases are lists of octets, one row after the other.  `pixelAt` reads one pixel of
such a list.  The correction for the orientation of the overlay plane moves every pixel to its
mirror image and touches nothing else (`pixelAt_apply`, `length_apply`).
-/

namespace LiveCamera

variable {α : Type} {size count depth width height x y : Nat}

/-! ## Stretches -/

theorem length_of_mem_stretches {l stretch : List α} (hl : size * count ≤ l.length)
    (h : stretch ∈ stretches size count l) : stretch.length = size := by
  obtain ⟨i, hget⟩ := List.mem_iff_getElem?.mp h
  obtain ⟨hi, -⟩ := List.getElem?_eq_some_iff.mp hget
  rw [length_stretches] at hi
  rw [getElem?_stretches size l hi, Option.some.injEq] at hget
  have hroom : size * i + size ≤ size * count := by
    rw [← Nat.mul_succ]
    exact Nat.mul_le_mul_left size hi
  rw [← hget, List.length_take, List.length_drop]
  omega

theorem length_flatten_of_length {parts : List (List α)}
    (h : ∀ part ∈ parts, part.length = size) : parts.flatten.length = parts.length * size := by
  rw [List.length_flatten, List.map_congr_left h, List.map_const', List.sum_replicate_nat]

/-- Parts of one length are found again in what they make up. -/
theorem stretches_flatten_append {parts : List (List α)} (h : ∀ part ∈ parts, part.length = size)
    (rest : List α) : stretches size parts.length (parts.flatten ++ rest) = parts := by
  induction parts with
  | nil => rfl
  | cons part parts ih =>
    have hpart : part.length = size := h part List.mem_cons_self
    have hparts := ih fun other hother ↦ h other (List.mem_cons_of_mem part hother)
    rw [List.length_cons, stretches, List.flatten_cons, List.append_assoc,
      List.take_left' hpart, List.drop_left' hpart, hparts]

theorem take_drop_flatten_append {parts : List (List α)} {part : List α}
    (h : ∀ part ∈ parts, part.length = size) (rest : List α) {i : Nat}
    (hpart : parts[i]? = some part) :
    ((parts.flatten ++ rest).drop (size * i)).take size = part := by
  obtain ⟨hi, -⟩ := List.getElem?_eq_some_iff.mp hpart
  have hget := getElem?_stretches size (parts.flatten ++ rest) hi
  rw [stretches_flatten_append h, hpart] at hget
  exact (Option.some.inj hget).symm

/-! ## Pixels -/

/-- The octets of one pixel of a row. -/
def pixelOf (depth : Nat) (row : Bytes) (x : Nat) : Bytes := (row.drop (depth * x)).take depth

/-- The octets of one pixel of a picture with `width` pixels in a row. -/
def pixelAt (depth width : Nat) (picture : Bytes) (x y : Nat) : Bytes :=
  (picture.drop (depth * (width * y + x))).take depth

theorem pixelAt_eq_pixelOf (picture : Bytes) (hx : x < width) (y : Nat) :
    pixelAt depth width picture x y =
      pixelOf depth ((picture.drop (width * depth * y)).take (width * depth)) x := by
  have hstart : width * depth * y + depth * x = depth * (width * y + x) := by ring
  have hroom : depth * x + depth ≤ width * depth := by
    calc
      depth * x + depth = depth * (x + 1) := by ring
      _ ≤ depth * width := Nat.mul_le_mul_left depth hx
      _ = width * depth := Nat.mul_comm depth width
  rw [pixelAt, pixelOf, List.drop_take, List.drop_drop, List.take_take, hstart,
    Nat.min_eq_left (by omega)]

/-- The pixels of a picture put together from its rows. -/
theorem pixelAt_flatten_append {rows : List Bytes} {row : Bytes}
    (h : ∀ row ∈ rows, row.length = width * depth) (rest : Bytes) (hx : x < width)
    (hrow : rows[y]? = some row) :
    pixelAt depth width (rows.flatten ++ rest) x y = pixelOf depth row x := by
  rw [pixelAt_eq_pixelOf _ hx, take_drop_flatten_append h rest hrow]

/-! ## Mirror images -/

/-- The place of an index counted from the other end, if that is asked for. -/
def mirror (reversed : Bool) (length i : Nat) : Nat := if reversed then length - 1 - i else i

theorem mirror_lt (reversed : Bool) {length i : Nat} (hi : i < length) :
    mirror reversed length i < length := by
  unfold mirror
  split_ifs <;> omega

namespace Orientation

theorem length_applyRow (o : Orientation) {row : Bytes} (hrow : row.length = width * depth) :
    (o.applyRow width depth row).length = width * depth := by
  have hroom : depth * width ≤ row.length := by rw [hrow, Nat.mul_comm]
  unfold applyRow
  split_ifs
  · rw [List.length_flatten, List.map_reverse, List.sum_reverse, ← List.length_flatten,
      flatten_stretches, List.length_take, Nat.min_eq_left hroom, Nat.mul_comm]
  · exact hrow

/-- The pixels of a corrected row. -/
theorem pixelOf_applyRow (o : Orientation) {row : Bytes} (hrow : row.length = width * depth)
    (hx : x < width) :
    pixelOf depth (o.applyRow width depth row) x =
      pixelOf depth row (mirror o.horizontal width x) := by
  unfold applyRow mirror
  split_ifs with hhorizontal
  · have hroom : depth * width ≤ row.length := by rw [hrow, Nat.mul_comm]
    have hcells : ∀ cell ∈ (stretches depth width row).reverse, cell.length = depth := by
      intro cell hcell
      exact length_of_mem_stretches hroom (List.mem_reverse.mp hcell)
    have hcell : (stretches depth width row).reverse[x]? =
        some ((row.drop (depth * (width - 1 - x))).take depth) := by
      rw [List.getElem?_reverse (by simpa using hx), length_stretches,
        getElem?_stretches depth row (by omega)]
    have hread := take_drop_flatten_append hcells [] hcell
    rw [List.append_nil] at hread
    rw [pixelOf, pixelOf, hread]
  · rfl

/-- The rows of a corrected canvas, in the order in which they come. -/
def correctedRows (o : Orientation) (pixels : Bytes) (width height depth : Nat) : List Bytes :=
  let rows := (stretches (width * depth) height pixels).map (o.applyRow width depth)
  if o.vertical then rows.reverse else rows

theorem apply_eq (o : Orientation) {pixels : Bytes} (hstride : width * depth ≠ 0)
    (hroom : width * depth * height ≤ pixels.length) :
    o.apply pixels width height depth =
      (o.correctedRows pixels width height depth).flatten ++
        pixels.drop (width * depth * height) := by
  have hshort : ¬(width * depth = 0 ∨ pixels.length < width * depth * height) := by omega
  unfold apply correctedRows
  simp only [if_neg hshort]

@[simp]
theorem length_correctedRows (o : Orientation) (pixels : Bytes) :
    (o.correctedRows pixels width height depth).length = height := by
  unfold correctedRows
  dsimp only
  split_ifs <;> simp

theorem length_of_mem_correctedRows (o : Orientation) {pixels row : Bytes}
    (hroom : width * depth * height ≤ pixels.length)
    (h : row ∈ o.correctedRows pixels width height depth) : row.length = width * depth := by
  have hmem : row ∈ (stretches (width * depth) height pixels).map (o.applyRow width depth) := by
    unfold correctedRows at h
    dsimp only at h
    split_ifs at h
    · exact List.mem_reverse.mp h
    · exact h
  obtain ⟨source, hsource, rfl⟩ := List.mem_map.mp hmem
  exact o.length_applyRow (length_of_mem_stretches hroom hsource)

/-- A corrected row is the mirror image of a row of the canvas. -/
theorem getElem?_correctedRows (o : Orientation) (pixels : Bytes) (hy : y < height) :
    (o.correctedRows pixels width height depth)[y]? =
      some (o.applyRow width depth
        ((pixels.drop (width * depth * mirror o.vertical height y)).take (width * depth))) := by
  unfold correctedRows mirror
  dsimp only
  split_ifs with hvertical
  · rw [List.getElem?_reverse (by simpa using hy), List.getElem?_map, List.length_map,
      length_stretches, getElem?_stretches (width * depth) pixels (by omega), Option.map_some]
  · rw [List.getElem?_map, getElem?_stretches (width * depth) pixels hy, Option.map_some]

/-- Correcting keeps the number of octets. -/
theorem length_apply (o : Orientation) (pixels : Bytes) (width height depth : Nat) :
    (o.apply pixels width height depth).length = pixels.length := by
  by_cases hshort : width * depth = 0 ∨ pixels.length < width * depth * height
  · unfold apply
    rw [if_pos hshort]
  · obtain ⟨hstride, hroom⟩ := not_or.mp hshort
    have hroom := Nat.not_lt.mp hroom
    have hrows := length_flatten_of_length (fun _ ↦ o.length_of_mem_correctedRows hroom)
    rw [length_correctedRows] at hrows
    rw [o.apply_eq hstride hroom, List.length_append, hrows, List.length_drop]
    have hcomm : height * (width * depth) = width * depth * height := Nat.mul_comm _ _
    omega

/-- Every pixel of a corrected canvas is the mirror image of one of the canvas. -/
theorem pixelAt_apply (o : Orientation) {pixels : Bytes} (hdepth : depth ≠ 0)
    (hroom : width * depth * height ≤ pixels.length) (hx : x < width) (hy : y < height) :
    pixelAt depth width (o.apply pixels width height depth) x y =
      pixelAt depth width pixels (mirror o.horizontal width x) (mirror o.vertical height y) := by
  have hstride : width * depth ≠ 0 := Nat.mul_ne_zero (by omega) hdepth
  have hlast := mirror_lt o.vertical hy
  have hsource : ((pixels.drop (width * depth * mirror o.vertical height y)).take
      (width * depth)).length = width * depth := by
    have hend : width * depth * mirror o.vertical height y + width * depth ≤
        width * depth * height := by
      rw [← Nat.mul_succ]
      exact Nat.mul_le_mul_left _ hlast
    rw [List.length_take, List.length_drop]
    omega
  rw [o.apply_eq hstride hroom,
    pixelAt_flatten_append (fun _ ↦ o.length_of_mem_correctedRows hroom) _ hx
      (o.getElem?_correctedRows pixels hy),
    o.pixelOf_applyRow hsource hx,
    ← pixelAt_eq_pixelOf pixels (mirror_lt o.horizontal hx)]

/-! ## Canvases in one colour -/

/-- Pixels of one colour put together row by row. -/
theorem flatten_replicate_mul (pixel : List α) (width height : Nat) :
    (List.replicate (width * height) pixel).flatten =
      (List.replicate height (List.replicate width pixel).flatten).flatten := by
  rw [Nat.mul_comm, ← List.flatten_replicate_replicate, List.flatten_flatten, List.map_replicate]

theorem stretches_flatten_replicate {part : List α} (h : part.length = size) (count : Nat) :
    stretches size count (List.replicate count part).flatten = List.replicate count part := by
  have hparts : ∀ other ∈ List.replicate count part, other.length = size := by
    intro other hother
    rw [List.eq_of_mem_replicate hother, h]
  have hcut := stretches_flatten_append hparts []
  rwa [List.append_nil, List.length_replicate] at hcut

theorem applyRow_replicate (o : Orientation) {pixel : Bytes} (h : pixel.length = depth)
    (width : Nat) :
    o.applyRow width depth (List.replicate width pixel).flatten =
      (List.replicate width pixel).flatten := by
  unfold applyRow
  rw [stretches_flatten_replicate h, List.reverse_replicate, ite_self]

/-- A canvas in one colour is its own mirror image. -/
theorem apply_replicate (o : Orientation) {pixel : Bytes} (h : pixel.length = depth)
    (width height : Nat) :
    o.apply (List.replicate (width * height) pixel).flatten width height depth =
      (List.replicate (width * height) pixel).flatten := by
  have hrow : ((List.replicate width pixel).flatten).length = width * depth := by simp [h]
  have hlength : ((List.replicate (width * height) pixel).flatten).length =
      width * depth * height := by
    rw [List.length_flatten, List.map_replicate, List.sum_replicate_nat, h]
    ring
  by_cases hstride : width * depth = 0
  · unfold apply
    exact if_pos (.inl hstride)
  · rw [o.apply_eq hstride (Nat.le_of_eq hlength.symm), List.drop_of_length_le (by omega),
      List.append_nil, flatten_replicate_mul, correctedRows, stretches_flatten_replicate hrow,
      List.map_replicate, o.applyRow_replicate h, List.reverse_replicate]
    simp

end Orientation

end LiveCamera
