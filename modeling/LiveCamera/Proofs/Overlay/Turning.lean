import LiveCamera.Proofs.Overlay.Raster
import Mathlib.Data.List.Induction

/-!
# Turning a canvas in place

`turn?` corrects a canvas where it lies: the pixels of a row trade places octet by octet, up to the
middle of the row, and then the rows do as a whole.  No operation has a result where an octet or a
stretch is not there, where stretches overlap, or where an index would fall below zero.  `turn?_eq`
says that this never happens, and that the outcome is the one of `apply`.

Octet by octet the outcome is the mirror image of the canvas (`getElem?_apply`).  One correction
after another is a correction again (`apply_apply`), so that they undo themselves and can be made in
any order (`apply_mirrors`).
-/

namespace LiveCamera

/-! ## Exchanges -/

namespace Bytes

/-- The octets at two places exchanged. -/
def exchange? (a b : Nat) (octets : Bytes) : Option Bytes := do
  let first ← octets[a]?
  let second ← octets[b]?
  return (octets.set a second).set b first

/-- Two stretches of `size` octets exchanged octet by octet. -/
def exchangeOctets? (size upper lower : Nat) (octets : Bytes) : Option Bytes :=
  (List.range' 0 size).foldlM (fun octets i ↦ octets.exchange? (upper + i) (lower + i)) octets

/-- Two stretches of `size` octets exchanged as a whole.  The first one has to end before the second
one begins. -/
def exchangeStretches? (size upper lower : Nat) (octets : Bytes) : Option Bytes :=
  if upper + size ≤ lower ∧ lower + size ≤ octets.length then
    some (octets.take upper ++ (octets.drop lower).take size ++
      (octets.take lower).drop (upper + size) ++ (octets.drop upper).take size ++
      octets.drop (lower + size))
  else none

/-- Both stretches trade places, and what lies before, between and behind them stays. -/
def Exchanges (size : Nat) (exchange : Nat → Nat → Bytes → Option Bytes) : Prop :=
  ∀ before first between second behind : Bytes, first.length = size → second.length = size →
    exchange before.length (before.length + size + between.length)
        (before ++ first ++ between ++ second ++ behind) =
      some (before ++ second ++ between ++ first ++ behind)

theorem set_append_singleton (before behind : Bytes) (old new : UInt8) :
    (before ++ [old] ++ behind).set before.length new = before ++ [new] ++ behind := by
  simp

theorem exchange?_append (before between behind : Bytes) (first second : UInt8) :
    exchange? before.length (before.length + 1 + between.length)
        (before ++ [first] ++ between ++ [second] ++ behind) =
      some (before ++ [second] ++ between ++ [first] ++ behind) := by
  have hlower (octet : UInt8) : before.length + 1 + between.length =
      (before ++ [octet] ++ between).length := by
    simp only [List.length_append, List.length_singleton]
  have hfirst : (before ++ [first] ++ between ++ [second] ++ behind)[before.length]? =
      some first := by simp
  have hsecond : (before ++ [first] ++ between ++ [second] ++ behind)[before.length + 1 +
      between.length]? = some second := by
    rw [hlower first, List.append_assoc, List.getElem?_append_right (Nat.le_refl _)]
    simp
  have hset : (before ++ [first] ++ between ++ [second] ++ behind).set before.length second =
      before ++ [second] ++ between ++ [second] ++ behind := by simp
  unfold exchange?
  simp only [hfirst, hsecond, Option.bind_eq_bind, Option.bind_some, hset]
  rw [hlower second, set_append_singleton]
  rfl

/-- The octets that the loop has passed are exchanged, and it goes on with those behind them. -/
theorem foldlM_exchange? (upper lower start : Nat) (before first between second behind : Bytes)
    (h : first.length = second.length) (hupper : upper + start = before.length)
    (hlower : lower + start = before.length + first.length + between.length) :
    (List.range' start first.length).foldlM
        (fun octets i ↦ exchange? (upper + i) (lower + i) octets)
        (before ++ first ++ between ++ second ++ behind) =
      some (before ++ second ++ between ++ first ++ behind) := by
  induction first generalizing second before between start with
  | nil =>
    obtain rfl : second = [] := List.length_eq_zero_iff.mp h.symm
    rfl
  | cons c first ih =>
    cases second with
    | nil => cases h
    | cons d second =>
      rw [List.length_cons] at hlower
      have hstep := exchange?_append before (first ++ between) (second ++ behind) c d
      have hplace : before.length + 1 + (first ++ between).length = lower + start := by
        rw [List.length_append]
        omega
      rw [hplace, ← hupper] at hstep
      have hrest := ih (start + 1) (before ++ [d]) (between ++ [c]) second (Nat.succ.inj h)
        (by rw [List.length_append, List.length_singleton]; omega)
        (by simp only [List.length_append, List.length_singleton]; omega)
      rw [List.length_cons, List.range'_succ, List.foldlM_cons]
      simp only [List.append_assoc, List.cons_append, List.nil_append] at hstep hrest ⊢
      rw [hstep]
      exact hrest

theorem exchanges_octets (size : Nat) : Exchanges size (exchangeOctets? size) := by
  intro before first between second behind hfirst hsecond
  subst hfirst
  exact foldlM_exchange? _ _ 0 before first between second behind hsecond.symm rfl rfl

theorem exchanges_stretches (size : Nat) : Exchanges size (exchangeStretches? size) := by
  intro before first between second behind hfirst hsecond
  have hupper : before.length + size = (before ++ first).length := by
    rw [List.length_append, hfirst]
  have hlower : before.length + size + between.length = (before ++ first ++ between).length := by
    rw [List.length_append, hupper]
  have hend : (before ++ first ++ between).length + size =
      (before ++ first ++ between ++ second).length := by
    rw [@List.length_append _ _ second, hsecond]
  have hbefore : (before ++ first ++ between ++ second ++ behind).take before.length = before := by
    simp only [List.append_assoc, List.take_left]
  have hfirst' : ((before ++ first ++ between ++ second ++ behind).drop before.length).take size =
      first := by
    simp only [List.append_assoc, List.drop_left, List.take_left' hfirst]
  have hbetween : ((before ++ first ++ between ++ second ++ behind).take
      (before ++ first ++ between).length).drop (before ++ first).length = between := by
    rw [List.append_assoc _ second, List.take_left, List.drop_left]
  have hsecond' : ((before ++ first ++ between ++ second ++ behind).drop
      (before ++ first ++ between).length).take size = second := by
    rw [List.append_assoc _ second, List.drop_left, List.take_left' hsecond]
  rw [exchangeStretches?, hlower, hupper, hend, if_pos (by simp), hbefore, hsecond', hbetween,
    hfirst', List.drop_left]

/-! ## Reversing the order of stretches -/

/-- The place of an index counted from the other end. -/
def opposite? (count i : Nat) : Option Nat := if i < count then some (count - 1 - i) else none

/-- A stretch exchanged with the one as far from the other end. -/
def exchangeOpposite? (exchange : Nat → Nat → Bytes → Option Bytes) (size count : Nat)
    (octets : Bytes) (i : Nat) : Option Bytes := do
  let j ← opposite? count i
  exchange (i * size) (j * size) octets

/-- The order of the first `count` stretches reversed by exchanges up to the middle. -/
def reverse? (exchange : Nat → Nat → Bytes → Option Bytes) (size count : Nat) (octets : Bytes) :
    Option Bytes :=
  (List.range' 0 (count / 2)).foldlM (exchangeOpposite? exchange size count) octets

/-- One round of the loop: the outermost parts of those between the ends trade places. -/
theorem exchangeOpposite?_flatten {exchange : Nat → Nat → Bytes → Option Bytes} {size count : Nat}
    (hexchange : Exchanges size exchange) (before middle behind : List Bytes)
    (first last rest : Bytes) (h : before.length = behind.length)
    (hcount : count = before.length + (middle.length + 2) + behind.length)
    (hsize : ∀ part ∈ before ++ first :: (middle ++ [last]) ++ behind, part.length = size) :
    exchangeOpposite? exchange size count
        ((before ++ first :: (middle ++ [last]) ++ behind).flatten ++ rest) before.length =
      some ((before ++ [last] ++ middle ++ first :: behind).flatten ++ rest) := by
  have hbefore : before.flatten.length = before.length * size :=
    length_flatten_of_length fun part hpart ↦ hsize part (by simp [hpart])
  have hmiddle : middle.flatten.length = middle.length * size :=
    length_flatten_of_length fun part hpart ↦ hsize part (by simp [hpart])
  have hplace : opposite? count before.length = some (before.length + 1 + middle.length) := by
    rw [opposite?, if_pos (by omega), Option.some.injEq]
    omega
  have hlower : (before.length + 1 + middle.length) * size =
      before.flatten.length + size + middle.flatten.length := by
    rw [hbefore, hmiddle]
    ring
  have hturned := hexchange before.flatten first middle.flatten last (behind.flatten ++ rest)
    (hsize first (by simp)) (hsize last (by simp))
  rw [exchangeOpposite?, hplace, Option.bind_eq_bind, Option.bind_some, hlower, ← hbefore]
  simpa using hturned

/-- The parts that the loop has passed at both ends are in place, and it goes on with those
between. -/
theorem foldlM_exchangeOpposite? {exchange : Nat → Nat → Bytes → Option Bytes} {size count : Nat}
    (hexchange : Exchanges size exchange) (before middle behind : List Bytes) (rest : Bytes)
    (h : before.length = behind.length)
    (hcount : count = before.length + middle.length + behind.length)
    (hsize : ∀ part ∈ before ++ middle ++ behind, part.length = size) :
    (List.range' before.length (middle.length / 2)).foldlM (exchangeOpposite? exchange size count)
        ((before ++ middle ++ behind).flatten ++ rest) =
      some ((before ++ middle.reverse ++ behind).flatten ++ rest) := by
  -- The loop works from both ends towards the middle, and so does the induction.
  induction middle using List.bidirectionalRec generalizing before behind with
  | nil => rfl
  | singleton part => simp
  | cons_append first middle last ih =>
    have hlength : (first :: (middle ++ [last])).length = middle.length + 2 := by simp
    rw [hlength] at hcount
    have hstep := exchangeOpposite?_flatten hexchange before middle behind first last rest h hcount
      hsize
    have hinner : ∀ part ∈ before ++ [last] ++ middle ++ first :: behind, part.length = size := by
      intro part hpart
      apply hsize
      simp only [List.mem_append, List.mem_cons] at hpart ⊢
      tauto
    have hrest := ih (before ++ [last]) (first :: behind)
      (by rw [List.length_append, List.length_singleton, List.length_cons, h])
      (by simp; omega) hinner
    rw [List.length_append, List.length_singleton] at hrest
    rw [hlength, Nat.add_div_right _ Nat.two_pos, List.range'_succ, List.foldlM_cons, hstep,
      Option.bind_eq_bind, Option.bind_some, hrest]
    simp

theorem reverse?_flatten {exchange : Nat → Nat → Bytes → Option Bytes} {size : Nat}
    (hexchange : Exchanges size exchange) {parts : List Bytes}
    (hsize : ∀ part ∈ parts, part.length = size) (rest : Bytes) :
    reverse? exchange size parts.length (parts.flatten ++ rest) =
      some (parts.reverse.flatten ++ rest) := by
  have hturned := foldlM_exchangeOpposite? hexchange [] parts [] rest rfl
    (Nat.zero_add parts.length).symm (by simpa using hsize)
  simpa [reverse?] using hturned

/-! ## Rows -/

/-- The first `count` rows changed one by one; where the octets end before that, so does the
change. -/
def changeRows? (change : Bytes → Option Bytes) (stride : Nat) : Nat → Bytes → Option Bytes
  | 0, octets => some octets
  | count + 1, octets =>
    if octets.length < stride then some octets
    else do
      let row ← change (octets.take stride)
      let others ← changeRows? change stride count (octets.drop stride)
      return row ++ others

theorem changeRows?_flatten {change : Bytes → Option Bytes} {changed : Bytes → Bytes}
    {stride : Nat} (hchange : ∀ row : Bytes, row.length = stride → change row = some (changed row))
    {rows : List Bytes} (hsize : ∀ row ∈ rows, row.length = stride) (rest : Bytes) :
    changeRows? change stride rows.length (rows.flatten ++ rest) =
      some ((rows.map changed).flatten ++ rest) := by
  induction rows with
  | nil => rfl
  | cons row rows ih =>
    have hrow : row.length = stride := hsize row List.mem_cons_self
    have hrows := ih fun other hother ↦ hsize other (List.mem_cons_of_mem row hother)
    have hlong : ¬((row :: rows).flatten ++ rest).length < stride := by
      simp only [List.flatten_cons, List.length_append, hrow]
      omega
    rw [List.length_cons, changeRows?, if_neg hlong, List.flatten_cons, List.append_assoc,
      List.take_left' hrow, List.drop_left' hrow, hchange row hrow, hrows]
    simp

end Bytes

/-! ## Places -/

variable {width height depth : Nat}

theorem mirror_mirror (first second : Bool) {length i : Nat} (hi : i < length) :
    mirror second length (mirror first length i) = mirror (first != second) length i := by
  cases first <;> cases second <;> simp [mirror]
  omega

/-- Buffers with the same octets in all pixels and the same ones behind them are the same. -/
theorem eq_of_octets {first second : Bytes}
    (hbehind : first.drop (width * depth * height) = second.drop (width * depth * height))
    (hoctets : ∀ row < height, ∀ column < width, ∀ octet < depth,
      first[depth * (width * row + column) + octet]? =
        second[depth * (width * row + column) + octet]?) : first = second := by
  apply List.ext_getElem?
  intro i
  rcases Nat.lt_or_ge i (width * depth * height) with hinside | houtside
  · have hi : i < depth * (width * height) := by
      calc
        i < width * depth * height := hinside
        _ = depth * (width * height) := by ring
    have hpixel : i / depth < width * height := Nat.div_lt_of_lt_mul hi
    have hplace : depth * (width * (i / depth / width) + i / depth % width) + i % depth = i := by
      rw [Nat.div_add_mod, Nat.div_add_mod]
    have hwidth : 0 < width := Nat.pos_of_ne_zero (by rintro rfl; simp at hi)
    have hdepth : 0 < depth := Nat.pos_of_ne_zero (by rintro rfl; simp at hi)
    have hoctet := hoctets (i / depth / width) (Nat.div_lt_of_lt_mul hpixel)
      (i / depth % width) (Nat.mod_lt _ hwidth) (i % depth) (Nat.mod_lt _ hdepth)
    rwa [hplace] at hoctet
  · have hoctet := congrArg (fun octets : Bytes ↦ octets[i - width * depth * height]?) hbehind
    simpa only [List.getElem?_drop, Nat.add_sub_of_le houtside] using hoctet

namespace Orientation

variable {row column octet : Nat} {pixels : Bytes}

/-! ## Corrections -/

/-- The pixels of a row in the opposite order. -/
def turnRow? (width depth : Nat) (row : Bytes) : Option Bytes :=
  Bytes.reverse? (Bytes.exchangeOctets? depth) depth width row

/-- The rows turned around one by one, if the orientation asks for it. -/
def turnRows? (o : Orientation) (width height depth : Nat) (pixels : Bytes) : Option Bytes :=
  if o.horizontal then Bytes.changeRows? (turnRow? width depth) (width * depth) height pixels
  else some pixels

/-- The rows in the opposite order, if the orientation asks for it. -/
def turnOrder? (o : Orientation) (stride height : Nat) (pixels : Bytes) : Option Bytes :=
  if o.vertical then Bytes.reverse? (Bytes.exchangeStretches? stride) stride height pixels
  else some pixels

/-- The corrected canvas, with every operation checked. -/
def turn? (o : Orientation) (pixels : Bytes) (width height depth : Nat) : Option Bytes :=
  if width * depth = 0 ∨ pixels.length < width * depth * height then some pixels
  else do
    let turned ← o.turnRows? width height depth pixels
    o.turnOrder? (width * depth) height turned

theorem turnRow?_eq {row : Bytes} (h : row.length = width * depth) :
    turnRow? width depth row = some (stretches depth width row).reverse.flatten := by
  have hroom : depth * width ≤ row.length := by rw [h, Nat.mul_comm]
  have hturned := Bytes.reverse?_flatten (Bytes.exchanges_octets depth)
    (fun _ ↦ length_of_mem_stretches hroom) []
  have hwhole : (stretches depth width row).flatten = row := by
    rw [flatten_stretches, List.take_of_length_le (by rw [h, Nat.mul_comm])]
  rw [length_stretches, hwhole, List.append_nil, List.append_nil] at hturned
  exact hturned

theorem turnRows?_flatten (o : Orientation) {rows : List Bytes}
    (hsize : ∀ row ∈ rows, row.length = width * depth) (rest : Bytes) :
    o.turnRows? width rows.length depth (rows.flatten ++ rest) =
      some ((rows.map (o.applyRow width depth)).flatten ++ rest) := by
  unfold turnRows? applyRow
  split_ifs with hhorizontal
  · exact Bytes.changeRows?_flatten (fun row hrow ↦ turnRow?_eq hrow) hsize rest
  · rw [List.map_id']

theorem turnOrder?_flatten (o : Orientation) {stride : Nat} {rows : List Bytes}
    (hsize : ∀ row ∈ rows, row.length = stride) (rest : Bytes) :
    o.turnOrder? stride rows.length (rows.flatten ++ rest) =
      some ((if o.vertical then rows.reverse else rows).flatten ++ rest) := by
  unfold turnOrder?
  split_ifs with hvertical
  · exact Bytes.reverse?_flatten (Bytes.exchanges_stretches stride) hsize rest
  · rfl

/-- Correcting a canvas where it lies always works out, and gives what `apply` says. -/
theorem turn?_eq (o : Orientation) (pixels : Bytes) (width height depth : Nat) :
    o.turn? pixels width height depth = some (o.apply pixels width height depth) := by
  by_cases hshort : width * depth = 0 ∨ pixels.length < width * depth * height
  · rw [turn?, apply, if_pos hshort, if_pos hshort]
  · have hroom : width * depth * height ≤ pixels.length := by omega
    have hpixels : (stretches (width * depth) height pixels).flatten ++
        pixels.drop (width * depth * height) = pixels := by
      rw [flatten_stretches, List.take_append_drop]
    have hsize : ∀ row ∈ (stretches (width * depth) height pixels).map (o.applyRow width depth),
        row.length = width * depth := by
      intro row hrow
      obtain ⟨source, hsource, rfl⟩ := List.mem_map.mp hrow
      exact o.length_applyRow (length_of_mem_stretches hroom hsource)
    have hrows := o.turnRows?_flatten (fun _ ↦ length_of_mem_stretches hroom)
      (pixels.drop (width * depth * height))
    have horder := o.turnOrder?_flatten hsize (pixels.drop (width * depth * height))
    rw [length_stretches, hpixels] at hrows
    rw [List.length_map, length_stretches] at horder
    rw [turn?, apply, if_neg hshort, if_neg hshort, hrows, Option.bind_eq_bind, Option.bind_some,
      horder]

/-- The two rows trade places and are turned around; the last octet belongs to neither. -/
example : (⟨true, true⟩ : Orientation).turn? [1, 2, 3, 4, 5, 6, 7] 3 2 1 =
    some [6, 5, 4, 3, 2, 1, 7] := by decide

/-! ## Mirror images -/

theorem apply_of_short (o : Orientation)
    (h : width * depth = 0 ∨ pixels.length < width * depth * height) :
    o.apply pixels width height depth = pixels := by
  rw [apply, if_pos h]

/-- Every octet of a pixel comes from the same octet of the pixel's mirror image. -/
theorem getElem?_apply (o : Orientation) (hroom : width * depth * height ≤ pixels.length)
    (hrow : row < height) (hcolumn : column < width) (hoctet : octet < depth) :
    (o.apply pixels width height depth)[depth * (width * row + column) + octet]? =
      pixels[depth * (width * mirror o.vertical height row +
        mirror o.horizontal width column) + octet]? := by
  have hpixel := congrArg (fun pixel : Bytes ↦ pixel[octet]?)
    (o.pixelAt_apply (by omega) hroom hcolumn hrow)
  simpa only [pixelAt, List.getElem?_take_of_lt hoctet, List.getElem?_drop] using hpixel

/-- What lies behind the rows stays. -/
theorem drop_apply (o : Orientation) (hroom : width * depth * height ≤ pixels.length) :
    (o.apply pixels width height depth).drop (width * depth * height) =
      pixels.drop (width * depth * height) := by
  by_cases hstride : width * depth = 0
  · rw [o.apply_of_short (.inl hstride)]
  · have hlength := congrArg List.length (o.apply_eq hstride hroom)
    rw [o.length_apply, List.length_append, List.length_drop] at hlength
    rw [o.apply_eq hstride hroom, List.drop_left' (by omega)]

/-- One correction made after another. -/
def after (o earlier : Orientation) : Orientation :=
  ⟨o.horizontal != earlier.horizontal, o.vertical != earlier.vertical⟩

theorem after_self (o : Orientation) : o.after o = natural := by simp [after, natural]

theorem after_comm (o other : Orientation) : o.after other = other.after o := by
  simp only [after, bne_comm]

/-- Two corrections make up one. -/
theorem apply_apply (o earlier : Orientation) (pixels : Bytes) (width height depth : Nat) :
    o.apply (earlier.apply pixels width height depth) width height depth =
      (o.after earlier).apply pixels width height depth := by
  by_cases hshort : width * depth = 0 ∨ pixels.length < width * depth * height
  · rw [earlier.apply_of_short hshort, o.apply_of_short hshort, apply_of_short _ hshort]
  · have hroom : width * depth * height ≤ pixels.length := by omega
    have hroom' : width * depth * height ≤ (earlier.apply pixels width height depth).length := by
      rwa [earlier.length_apply]
    apply eq_of_octets
    · rw [o.drop_apply hroom', earlier.drop_apply hroom, drop_apply _ hroom]
    · intro row hrow column hcolumn octet hoctet
      rw [o.getElem?_apply hroom' hrow hcolumn hoctet,
        earlier.getElem?_apply hroom (mirror_lt _ hrow) (mirror_lt _ hcolumn) hoctet,
        getElem?_apply _ hroom hrow hcolumn hoctet, mirror_mirror _ _ hrow,
        mirror_mirror _ _ hcolumn]
      rfl

theorem apply_natural (pixels : Bytes) (width height depth : Nat) :
    natural.apply pixels width height depth = pixels := by
  by_cases hshort : width * depth = 0 ∨ pixels.length < width * depth * height
  · exact apply_of_short natural hshort
  · apply eq_of_octets
    · exact drop_apply natural (by omega)
    · intro row hrow column hcolumn octet hoctet
      exact getElem?_apply natural (by omega) hrow hcolumn hoctet

/-- Correcting a canvas where it lies never leaves its bounds and keeps its length.  A canvas
without pixels in a row, or with too few octets, stays; any other becomes its mirror image, octet by
octet, and keeps what lies behind its rows.  Correcting twice changes nothing, and the corrections
of the two axes can be made in any order. -/
theorem apply_mirrors (o : Orientation) (pixels : Bytes) (width height depth : Nat) :
    o.turn? pixels width height depth = some (o.apply pixels width height depth) ∧
      (o.apply pixels width height depth).length = pixels.length ∧
      (width * depth = 0 ∨ pixels.length < width * height * depth →
        o.apply pixels width height depth = pixels) ∧
      (width * depth ≠ 0 ∧ width * height * depth ≤ pixels.length →
        (∀ row < height, ∀ column < width, ∀ octet < depth,
          (o.apply pixels width height depth)[depth * (width * row + column) + octet]? =
            pixels[depth * (width * mirror o.vertical height row +
              mirror o.horizontal width column) + octet]?) ∧
        (o.apply pixels width height depth).drop (width * height * depth) =
          pixels.drop (width * height * depth)) ∧
      o.apply (o.apply pixels width height depth) width height depth = pixels ∧
      (⟨true, false⟩ : Orientation).apply
          ((⟨false, true⟩ : Orientation).apply pixels width height depth) width height depth =
        (⟨false, true⟩ : Orientation).apply
          ((⟨true, false⟩ : Orientation).apply pixels width height depth) width height depth := by
  have harea : width * height * depth = width * depth * height := by ring
  rw [harea]
  refine ⟨o.turn?_eq pixels width height depth, o.length_apply pixels width height depth,
    o.apply_of_short, ?mirrored, ?twice, ?axes⟩
  case mirrored =>
    rintro ⟨-, hroom⟩
    refine ⟨?_, o.drop_apply hroom⟩
    intro row hrow column hcolumn octet hoctet
    exact o.getElem?_apply hroom hrow hcolumn hoctet
  case twice => rw [apply_apply, after_self, apply_natural]
  case axes => rw [apply_apply, apply_apply, after_comm]

/-- Two rows of three pixels with two octets each, and one octet behind them. -/
theorem apply_mirrors_odd_rows :
    (3 * 2 ≠ 0 ∧ 3 * 2 * 2 ≤ ([1, 2, 3, 4, 5, 6, 7, 8, 9, 10, 11, 12, 13] : Bytes).length) ∧
      ((⟨true, true⟩ : Orientation).apply [1, 2, 3, 4, 5, 6, 7, 8, 9, 10, 11, 12, 13] 3 2 2)[2 *
        (3 * 0 + 1) + 1]? = some 10 := by
  have hwhole : 3 * 2 ≠ 0 ∧
      3 * 2 * 2 ≤ ([1, 2, 3, 4, 5, 6, 7, 8, 9, 10, 11, 12, 13] : Bytes).length := by decide
  obtain ⟨-, -, -, hmirrored, -⟩ :=
    apply_mirrors ⟨true, true⟩ [1, 2, 3, 4, 5, 6, 7, 8, 9, 10, 11, 12, 13] 3 2 2
  refine ⟨hwhole, ?_⟩
  rw [(hmirrored hwhole).1 0 (by decide) 1 (by decide) 1 (by decide)]
  decide

end Orientation

end LiveCamera
