import LiveCamera.Proofs.Overlay.Rectangles

/-!
# Clipping in machine words

The coordinates of a drawn rectangle are signed words of 32 bits, and the sides of the picture are
unsigned ones, which may be larger than any signed word.  `clampWords` clips in signed words of 64
bits and narrows the outcome.  No sum wraps and no narrowing loses anything, so it is what `clamp`
computes from the integers (`clampWords_eq`), and it covers exactly the pixels that the rectangle
and the picture have in common (`clipped_exactly`).
-/

namespace LiveCamera.Rect

/-! ## Words -/

/-- A word itself if it lies between two bounds, and else the bound that it passes. -/
def clampWord (value lower upper : Int64) : Int64 :=
  if value < lower then lower else if upper < value then upper else value

/-- The part of the interval from `start`, `length` long, that lies between zero and `limit`, as its
start and length.  A negative length counts as zero. -/
def clampAxisWords (start length : Int32) (limit : UInt32) : UInt32 × UInt32 :=
  let limit := limit.toUInt64.toInt64
  let first := clampWord start.toInt64 0 limit
  let last := clampWord (start.toInt64 + (max length 0).toInt64) 0 limit
  (first.toUInt64.toUInt32, (max (last - first) 0).toUInt64.toUInt32)

/-- The part of a rectangle with signed coordinates that lies inside a picture. -/
def clampWords (x y w h : Int32) (width height : UInt32) : Rect :=
  let horizontal := clampAxisWords x w width
  let vertical := clampAxisWords y h height
  ⟨horizontal.1.toNat, vertical.1.toNat, horizontal.2.toNat, vertical.2.toNat⟩

theorem toInt_clampWord {lower upper : Int64} (h : lower ≤ upper) (value : Int64) :
    (clampWord value lower upper).toInt = max lower.toInt (min value.toInt upper.toInt) := by
  have hbounds : lower.toInt ≤ upper.toInt := Int64.le_iff_toInt_le.mp h
  simp only [clampWord, Int64.lt_iff_toInt_lt]
  split_ifs <;> omega

theorem toInt_widened (limit : UInt32) : limit.toUInt64.toInt64.toInt = limit.toNat := by
  have hlimit := limit.toNat_lt
  have hvalue : limit.toUInt64.toInt64.toBitVec.toNat = limit.toNat := by simp
  rw [← Int64.toInt_toBitVec, BitVec.toInt_eq_toNat_of_lt (by omega), hvalue]

theorem toInt_max_zero (length : Int32) : (max length 0).toInt = max length.toInt 0 := by
  have hmax : max length 0 = if length ≤ 0 then 0 else length := rfl
  have hzero : (0 : Int32).toInt = 0 := rfl
  simp only [hmax, Int32.le_iff_toInt_le, hzero]
  split_ifs <;> omega

theorem toInt_difference (first last : Int64) (hfirst : 0 ≤ first.toInt) (hlast : 0 ≤ last.toInt) :
    (max (last - first) 0).toInt = max (last.toInt - first.toInt) 0 := by
  have hmax : max (last - first) 0 = if last - first ≤ 0 then 0 else last - first := rfl
  have hzero : (0 : Int64).toInt = 0 := rfl
  have hbelow := first.toInt_lt
  have hsub : (last - first).toInt = last.toInt - first.toInt := by
    rw [Int64.toInt_sub]
    have hlower := last.toInt_lt
    exact Int.bmod_eq_of_le (by omega) (by omega)
  simp only [hmax, Int64.le_iff_toInt_le, hzero, hsub]
  split_ifs <;> omega

/-- The end of an interval lies within the words of 64 bits. -/
theorem toInt_end (start length : Int32) :
    (start.toInt64 + (max length 0).toInt64).toInt = start.toInt + max length.toInt 0 := by
  have hstart := start.le_toInt
  have hstart' := start.toInt_lt
  have hlength := length.toInt_lt
  rw [Int64.toInt_add, Int32.toInt_toInt64, Int32.toInt_toInt64, toInt_max_zero]
  exact Int.bmod_eq_of_le (by omega) (by omega)

/-- A coordinate of a picture keeps its value when it is narrowed. -/
theorem toNat_narrowed {value : Int64} (h : 0 ≤ value.toInt) (hroom : value.toInt < 4294967296) :
    value.toUInt64.toUInt32.toNat = value.toInt.toNat := by
  have hvalue : value.toUInt64.toNat = value.toInt.toNat :=
    Int64.toNat_toUInt64_of_le (Int64.le_iff_toInt_le.mpr h)
  rw [UInt64.toNat_toUInt32, hvalue]
  omega

theorem clampAxisWords_eq (start length : Int32) (limit : UInt32) :
    ((clampAxisWords start length limit).1.toNat, (clampAxisWords start length limit).2.toNat) =
      clampAxis start.toInt length.toInt limit.toNat := by
  have hlimit := limit.toNat_lt
  have hzero : (0 : Int64).toInt = 0 := rfl
  have hwide := toInt_widened limit
  have hbounds : (0 : Int64) ≤ limit.toUInt64.toInt64 := by
    rw [Int64.le_iff_toInt_le]
    omega
  have hfirst := toInt_clampWord hbounds start.toInt64
  have hlast := toInt_clampWord hbounds (start.toInt64 + (max length 0).toInt64)
  rw [Int32.toInt_toInt64, hwide, hzero] at hfirst
  rw [toInt_end, hwide, hzero] at hlast
  unfold clampAxisWords clampAxis
  dsimp only
  generalize clampWord start.toInt64 0 limit.toUInt64.toInt64 = first at *
  generalize clampWord (start.toInt64 + (max length 0).toInt64) 0 limit.toUInt64.toInt64 = last at *
  have hdifference := toInt_difference first last (by omega) (by omega)
  have hx : first.toUInt64.toUInt32.toNat = first.toInt.toNat :=
    toNat_narrowed (by omega) (by omega)
  have hw : (max (last - first) 0).toUInt64.toUInt32.toNat = (max (last - first) 0).toInt.toNat :=
    toNat_narrowed (by omega) (by omega)
  rw [hx, hw, hdifference, Prod.mk.injEq]
  omega

/-- Words wrap nowhere on the way to the clipped rectangle. -/
theorem clampWords_eq (x y w h : Int32) (width height : UInt32) :
    clampWords x y w h width height =
      clamp x.toInt y.toInt w.toInt h.toInt ⟨width.toNat, height.toNat⟩ := by
  simp only [clampWords, clamp, ← clampAxisWords_eq]

/-! ## Pixels in common -/

/-- A pixel of a picture that a rectangle with signed coordinates covers; a negative side covers
nothing. -/
def Meets (x y w h : Int) (bounds : Size) (px py : Nat) : Prop :=
  (x ≤ px ∧ px < x + max w 0 ∧ px < bounds.width) ∧ y ≤ py ∧ py < y + max h 0 ∧ py < bounds.height

theorem contains_clamp_iff_meets {bounds : Size} (hwidth : bounds.width ≤ maxCoordinate)
    (hheight : bounds.height ≤ maxCoordinate) (x y w h : Int) (px py : Nat) :
    (clamp x y w h bounds).contains px py = true ↔ Meets x y w h bounds px py := by
  rw [contains_clamp hwidth hheight, Meets]
  apply and_congr <;> omega

theorem isEmpty_clamp_iff {bounds : Size} (hwidth : bounds.width ≤ maxCoordinate)
    (hheight : bounds.height ≤ maxCoordinate) (x y w h : Int) :
    (clamp x y w h bounds).isEmpty = true ↔ ∀ px py : Nat, ¬Meets x y w h bounds px py := by
  have hsome := isEmpty_eq_false_iff_exists_contains (fitsIn_clamp hwidth hheight x y w h)
  simp only [contains_clamp_iff_meets hwidth hheight] at hsome
  rw [← not_iff_not, Bool.not_eq_true, hsome]
  push Not
  rfl

theorem clampAxis_of_le {start length limit : Nat} (h : start + length ≤ limit) :
    clampAxis start length limit = (start, length) := by
  simp only [clampAxis, Prod.mk.injEq]
  omega

/-- A rectangle inside a picture is left alone. -/
theorem clamp_of_fitsIn {r : Rect} {bounds : Size} (h : r.fitsIn bounds = true) :
    clamp r.x r.y r.w r.h bounds = r := by
  obtain ⟨hwidth, -, hheight, -⟩ := fitsIn_iff.mp h
  simp only [clamp, clampAxis_of_le hwidth, clampAxis_of_le hheight]

/-- The signed words are the coordinates of the rectangle. -/
def HasWords (r : Rect) (x y w h : Int32) : Prop :=
  x.toInt = r.x ∧ y.toInt = r.y ∧ w.toInt = r.w ∧ h.toInt = r.h

/-- What clipping leaves of a rectangle fits the picture, covers the pixels that both have in common
and no others, is empty if there are none, and is left alone by further clipping. -/
theorem clipped_exactly (x y w h : Int32) (width height : UInt32) :
    clampWords x y w h width height =
        clamp x.toInt y.toInt w.toInt h.toInt ⟨width.toNat, height.toNat⟩ ∧
      (clampWords x y w h width height).fitsIn ⟨width.toNat, height.toNat⟩ = true ∧
      (∀ px py : Nat, (clampWords x y w h width height).contains px py = true ↔
        Meets x.toInt y.toInt w.toInt h.toInt ⟨width.toNat, height.toNat⟩ px py) ∧
      ((clampWords x y w h width height).isEmpty = true ↔
        ∀ px py : Nat, ¬Meets x.toInt y.toInt w.toInt h.toInt ⟨width.toNat, height.toNat⟩ px py) ∧
      ∀ x' y' w' h' : Int32, (clampWords x y w h width height).HasWords x' y' w' h' →
        clampWords x' y' w' h' width height = clampWords x y w h width height := by
  have hwidth : width.toNat ≤ maxCoordinate := Nat.le_of_lt_succ width.toNat_lt
  have hheight : height.toNat ≤ maxCoordinate := Nat.le_of_lt_succ height.toNat_lt
  have heq := clampWords_eq x y w h width height
  have hfits : (clampWords x y w h width height).fitsIn ⟨width.toNat, height.toNat⟩ = true := by
    rw [heq]
    exact fitsIn_clamp hwidth hheight x.toInt y.toInt w.toInt h.toInt
  refine ⟨heq, hfits, ?contains, ?empty, ?again⟩
  case contains =>
    rw [heq]
    exact contains_clamp_iff_meets hwidth hheight x.toInt y.toInt w.toInt h.toInt
  case empty =>
    rw [heq]
    exact isEmpty_clamp_iff hwidth hheight x.toInt y.toInt w.toInt h.toInt
  case again =>
    rintro x' y' w' h' ⟨hx, hy, hw, hh⟩
    rw [clampWords_eq, hx, hy, hw, hh]
    exact clamp_of_fitsIn hfits

/-- Across the left edge of a picture that no signed word can measure, and as far down as signed
words reach. -/
theorem clipped_exactly_large_picture :
    (⟨0, 2147483647, 2147483637, 2147483647⟩ : Rect).HasWords
        0 2147483647 2147483637 2147483647 ∧
      clampWords (-10) 2147483647 2147483647 2147483647 4294967295 4294967295 =
        ⟨0, 2147483647, 2147483637, 2147483647⟩ ∧
      clampWords 0 2147483647 2147483637 2147483647 4294967295 4294967295 =
        ⟨0, 2147483647, 2147483637, 2147483647⟩ := by
  have hclipped : clampWords (-10) 2147483647 2147483647 2147483647 4294967295 4294967295 =
      ⟨0, 2147483647, 2147483637, 2147483647⟩ := by decide
  have hwords : (⟨0, 2147483647, 2147483637, 2147483647⟩ : Rect).HasWords
      0 2147483647 2147483637 2147483647 := by
    unfold HasWords
    decide
  obtain ⟨-, -, -, -, hagain⟩ :=
    clipped_exactly (-10) 2147483647 2147483647 2147483647 4294967295 4294967295
  rw [hclipped] at hagain
  exact ⟨hwords, hclipped, hagain _ _ _ _ hwords⟩

end LiveCamera.Rect
