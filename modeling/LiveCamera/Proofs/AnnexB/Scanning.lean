import LiveCamera.Proofs.AnnexB.Framing

/-!
# Splitting any buffer

A buffer with start codes is a lead without any, followed by one unit for every start code; some of
these units are bare, with nothing behind the code.  `Dissected` says so, and `split` leaves the bare
units out.  `Located` says where a unit lies and which start code it stands behind.

`scan?` is the same splitting with offsets in place of parts: it notes where start codes begin and
end, and then takes slices of the buffer.  It has no result if it reads past the end of the buffer
or if the ends of a slice are out of order; `scan?_eq` says that neither ever happens.
-/

namespace LiveCamera

/-- The octets from the offset `start` up to the offset `stop`, if both lie in the string and in this
order. -/
def Bytes.slice? (data : Bytes) (start stop : Nat) : Option Bytes :=
  if start ≤ stop ∧ stop ≤ data.length then some ((data.take stop).drop start) else none

theorem Bytes.slice?_append (before part behind : Bytes) :
    Bytes.slice? (before ++ part ++ behind) before.length (before.length + part.length) =
      some part := by
  rw [slice?, if_pos (by simp), ← List.length_append, List.take_left, List.drop_left]

namespace AnnexB

open NalUnit

/-! ## The units of all start codes -/

/-- A part without the zero octet that belongs to the start code behind it. -/
def stem (part : Bytes) (behind : List Bytes) : Bytes :=
  if endsInZero part && !behind.isEmpty then part.dropLast else part

@[simp]
theorem stem_nil (part : Bytes) : stem part [] = part := by simp [stem]

/-- The zero octet of the start code behind a part, if that is a long one. -/
def lastZero (part : Bytes) : Bytes := if endsInZero part then [0] else []

theorem stem_append_lastZero (part next : Bytes) (behind : List Bytes) :
    stem part (next :: behind) ++ lastZero part = part := by
  unfold stem lastZero
  by_cases hzero : endsInZero part = true
  · have hlast : part.getLast? = some 0 := by simpa [endsInZero] using hzero
    simpa [hzero] using List.dropLast_append_getLast? 0 hlast
  · simp [hzero]

theorem stem_isPrefix (part : Bytes) (behind : List Bytes) : stem part behind <+: part := by
  unfold stem
  split_ifs
  · exact List.dropLast_prefix part
  · exact List.prefix_refl part

/-- Parts joined by start codes. -/
def joined (part : Bytes) (behind : List Bytes) : Bytes := part ++ behind.flatMap (startCode ++ ·)

theorem joined_cons (part next : Bytes) (behind : List Bytes) :
    joined part (next :: behind) = part ++ startCode ++ joined next behind := by
  simp [joined]

/-- Cutting keeps every octet. -/
theorem cut_joined (read data : Bytes) :
    ∃ part behind, cut read data = part :: behind ∧ read.reverse ++ data = joined part behind := by
  fun_induction cut read data with
  | case1 read a b c rest hcode ih =>
    obtain ⟨next, behind, hcut, hjoined⟩ := ih
    obtain ⟨rfl, rfl, rfl⟩ := hcode
    refine ⟨read.reverse, next :: behind, by rw [hcut], ?_⟩
    rw [joined_cons, ← hjoined]
    simp [startCode]
  | case2 read a b c rest hcode ih => simpa using ih
  | case3 read rest hshort => exact ⟨_, [], rfl, by simp [joined]⟩

/-- The unit of the start code at `position`, in front of which the part `before` ends. -/
def unitAt (position : Nat) (before payload : Bytes) : NalUnit :=
  ⟨if endsInZero before then position - 1 else position, if endsInZero before then 4 else 3, payload⟩

theorem unitsFrom_cons (position : Nat) (before part : Bytes) (behind : List Bytes) :
    unitsFrom position before (part :: behind) =
      unitAt position before (stem part behind) ::
        unitsFrom (position + 3 + part.length) part behind := rfl

theorem framed_unitAt (position : Nat) (before payload : Bytes) :
    (unitAt position before payload).framed = lastZero before ++ startCode ++ payload := by
  by_cases hzero : endsInZero before = true <;> simp [unitAt, framed, lastZero, startCode, hzero]

theorem codeLength_unitAt (position : Nat) (before payload : Bytes) :
    (unitAt position before payload).codeLength = (lastZero before).length + 3 := by
  unfold unitAt lastZero
  dsimp only
  split_ifs <;> rfl

/-- Joined parts are the first one's stem and the units of the start codes. -/
theorem joined_eq (position : Nat) (part : Bytes) (behind : List Bytes) :
    joined part behind = stem part behind ++ (unitsFrom position part behind).flatMap framed := by
  induction behind generalizing part position with
  | nil => simp [joined, unitsFrom]
  | cons next behind ih =>
    calc
      joined part (next :: behind) = part ++ startCode ++ joined next behind :=
        joined_cons part next behind
      _ = (stem part (next :: behind) ++ lastZero part) ++ startCode ++
          (stem next behind ++
            (unitsFrom (position + 3 + next.length) next behind).flatMap framed) := by
        rw [stem_append_lastZero, ← ih]
      _ = _ := by
        rw [unitsFrom_cons, List.flatMap_cons, framed_unitAt]
        simp only [List.append_assoc]

/-- The unit behind a part begins where the part's stem ends. -/
theorem start_unitAt (offset : Nat) (part next payload : Bytes) (behind : List Bytes) :
    (unitAt (offset + part.length) part payload).start =
      offset + (stem part (next :: behind)).length := by
  have hlength := congrArg List.length (stem_append_lastZero part next behind)
  rw [List.length_append] at hlength
  unfold unitAt
  unfold lastZero at hlength
  dsimp only
  split_ifs at hlength ⊢
  · rw [List.length_singleton] at hlength
    omega
  · rw [List.length_nil] at hlength
    omega

/-- The units of start codes lie one behind the other. -/
theorem placed_unitsFrom (offset : Nat) (part : Bytes) (behind : List Bytes) :
    placed (offset + (stem part behind).length) (unitsFrom (offset + part.length) part behind) =
      unitsFrom (offset + part.length) part behind := by
  induction behind generalizing part offset with
  | nil => rfl
  | cons next behind ih =>
    have hlength := congrArg List.length (stem_append_lastZero part next behind)
    have hnext : offset + (stem part (next :: behind)).length +
        (lastZero part ++ startCode ++ stem next behind).length =
          offset + part.length + 3 + (stem next behind).length := by
      simp only [List.length_append, startCode, List.length_cons, List.length_nil] at hlength ⊢
      omega
    rw [unitsFrom_cons, placed, framed_unitAt, hnext, ih,
      ← start_unitAt offset part next (stem next behind) behind]

/-- Where a unit lies in a buffer: behind a start code, which is a long one exactly if the octet in
front of `00 00 01` is zero. -/
structure Located (data : Bytes) (u : NalUnit) : Prop where
  code : u.codeLength = 3 ∨ u.codeLength = 4
  framed : data.slice? u.start (u.start + u.framed.length) = some u.framed
  long : u.codeLength = 4 ↔ (data.take (u.start + u.codeLength - 3)).getLast? = some 0
  codeFree : CodeFree u.payload

theorem endsInZero_append_startCode (front part : Bytes) :
    endsInZero (front ++ startCode ++ part) = endsInZero part := by
  unfold endsInZero
  rw [List.append_assoc, List.getLast?_append, List.getLast?_append]
  cases part.getLast? <;> simp [startCode]

/-- The unit of the first start code behind a part. What precedes the part does not decide how long
the start code is. -/
theorem located_first {front part : Bytes} (hfront : endsInZero (front ++ part) = endsInZero part)
    {next : Bytes} (hfree : CodeFree next) (behind : List Bytes) :
    Located (front ++ joined part (next :: behind))
      (unitAt (front.length + part.length) part (stem next behind)) := by
  have hlength := congrArg List.length (stem_append_lastZero part next behind)
  have hdata : front ++ joined part (next :: behind) =
      (front ++ stem part (next :: behind)) ++ (lastZero part ++ startCode ++ stem next behind) ++
        (unitsFrom 0 next behind).flatMap NalUnit.framed := by
    calc
      front ++ joined part (next :: behind) =
          front ++ (stem part (next :: behind) ++ lastZero part) ++ startCode ++
            (stem next behind ++ (unitsFrom 0 next behind).flatMap NalUnit.framed) := by
        rw [stem_append_lastZero, joined_cons, ← joined_eq 0 next behind]
        simp only [List.append_assoc]
      _ = _ := by simp only [List.append_assoc]
  have hstart := start_unitAt front.length part next (stem next behind) behind
  have hcode := codeLength_unitAt (front.length + part.length) part (stem next behind)
  refine ⟨?_, ?_, ?_, hfree.of_infix (stem_isPrefix next behind).isInfix⟩
  · unfold unitAt
    dsimp only
    split_ifs <;> simp
  · rw [hstart, framed_unitAt, hdata, ← List.length_append]
    exact Bytes.slice?_append _ _ _
  · have hplace : front.length + (stem part (next :: behind)).length +
        ((lastZero part).length + 3) - 3 = (front ++ part).length := by
      simp only [List.length_append] at hlength ⊢
      omega
    have htake : (front ++ joined part (next :: behind)).take (front ++ part).length =
        front ++ part := by
      rw [joined_cons, List.append_assoc, ← List.append_assoc, List.take_left]
    have hlast : (front ++ part).getLast? = some 0 ↔ endsInZero part = true := by
      rw [← hfront]
      simp [endsInZero]
    rw [hstart, hcode, hplace, htake, hlast]
    unfold lastZero
    split_ifs with hzero <;> simp [hzero]

/-- Every start code of joined parts has its unit. -/
theorem located_unitsFrom {front part : Bytes} {behind : List Bytes}
    (hfront : endsInZero (front ++ part) = endsInZero part)
    (hfree : ∀ other ∈ behind, CodeFree other) :
    ∀ u ∈ unitsFrom (front.length + part.length) part behind,
      Located (front ++ joined part behind) u := by
  induction behind generalizing front part with
  | nil => simp [unitsFrom]
  | cons next behind ih =>
    have hnext := hfree next List.mem_cons_self
    have hlater := ih (endsInZero_append_startCode (front ++ part) next) fun other hother ↦
      hfree other (List.mem_cons_of_mem next hother)
    have hplace : front.length + part.length + 3 + next.length =
        (front ++ part ++ startCode).length + next.length := by
      simp only [List.length_append, startCode, List.length_cons, List.length_nil]
    have hdata : front ++ joined part (next :: behind) =
        front ++ part ++ startCode ++ joined next behind := by
      simp only [joined_cons, List.append_assoc]
    rw [unitsFrom_cons, List.forall_mem_cons, hplace]
    refine ⟨located_first hfront hnext behind, ?_⟩
    rw [hdata]
    exact hlater

/-! ## Scanning with offsets -/

/-- A start code in a buffer: where it begins, and where the payload behind it does. -/
structure Mark where
  start : Nat
  payload : Nat

/-- Whether `00 00 01` stands at an offset. -/
def codeAt? (data : Bytes) (offset : Nat) : Option Bool := do
  let first ← data[offset]?
  let second ← data[offset + 1]?
  let third ← data[offset + 2]?
  return first == 0 && second == 0 && third == 1

/-- Whether a zero octet stands in front of an offset. -/
def zeroBefore? (data : Bytes) (offset : Nat) : Option Bool :=
  if 0 < offset then do
    let octet ← data[offset - 1]?
    return octet == 0
  else some false

/-- The start codes from an offset on. -/
def marksFrom? (data : Bytes) (offset : Nat) : Option (List Mark) :=
  if offset + 3 ≤ data.length then do
    if ← codeAt? data offset then
      let long ← zeroBefore? data offset
      let later ← marksFrom? data (offset + 3)
      return ⟨if long then offset - 1 else offset, offset + 3⟩ :: later
    else marksFrom? data (offset + 1)
  else some []
termination_by data.length - offset

/-- A unit as slices of a buffer. -/
structure Slices where
  start : Nat
  framed : Bytes
  payload : Bytes
  deriving DecidableEq, Repr

/-- The units of start codes; each one reaches up to the next start code. -/
def slicesAt? (data : Bytes) : List Mark → Option (List Slices)
  | [] => some []
  | mark :: rest => do
    let stop := (rest.head?.map (·.start)).getD data.length
    let framed ← data.slice? mark.start stop
    let payload ← data.slice? mark.payload stop
    let later ← slicesAt? data rest
    return ⟨mark.start, framed, payload⟩ :: later

/-- The units of a buffer, found with offsets. -/
def scan? (data : Bytes) : Option (List Slices) := do
  let marks ← marksFrom? data 0
  if marks.isEmpty then
    return if data.isEmpty then [] else [⟨0, data, data⟩]
  else
    let slices ← slicesAt? data marks
    return slices.filter (!·.payload.isEmpty)

end AnnexB

/-- The start code of a unit. -/
def NalUnit.mark (u : NalUnit) : AnnexB.Mark := ⟨u.start, u.start + u.codeLength⟩

def NalUnit.slices (u : NalUnit) : AnnexB.Slices := ⟨u.start, u.framed, u.payload⟩

namespace AnnexB

open NalUnit

theorem codeAt?_length (front : Bytes) (a b c : UInt8) (rest : Bytes) :
    codeAt? (front ++ a :: b :: c :: rest) front.length = some (a == 0 && b == 0 && c == 1) := by
  simp [codeAt?]

theorem zeroBefore?_length (front rest : Bytes) :
    zeroBefore? (front ++ rest) front.length = some (endsInZero front) := by
  unfold zeroBefore? endsInZero
  cases hlast : front.getLast? with
  | none =>
    obtain rfl := List.getLast?_eq_none_iff.mp hlast
    rfl
  | some octet =>
    have hpos : 0 < front.length := List.length_pos_iff.mpr (by rintro rfl; simp at hlast)
    rw [List.getLast?_eq_getElem?] at hlast
    rw [if_pos hpos, List.getElem?_append_left (by omega), hlast]
    rfl

theorem marksFrom?_startCode (front rest : Bytes) :
    marksFrom? (front ++ startCode ++ rest) front.length =
      (marksFrom? (front ++ startCode ++ rest) (front ++ startCode).length).map
        (⟨if endsInZero front then front.length - 1 else front.length, front.length + 3⟩ :: ·) := by
  have hcode : codeAt? (front ++ startCode ++ rest) front.length = some true := by
    simpa [startCode] using codeAt?_length front 0 0 1 rest
  have hzero : zeroBefore? (front ++ startCode ++ rest) front.length = some (endsInZero front) := by
    rw [List.append_assoc]
    exact zeroBefore?_length front (startCode ++ rest)
  have hlength : (front ++ startCode).length = front.length + 3 := by
    rw [List.length_append]
    rfl
  rw [marksFrom?, if_pos (by rw [List.length_append, hlength]; omega), hcode, hzero, hlength]
  cases marksFrom? (front ++ startCode ++ rest) (front.length + 3) <;> rfl

theorem marksFrom?_cons (front : Bytes) {a b c : UInt8} {rest : Bytes}
    (h : ¬(a = 0 ∧ b = 0 ∧ c = 1)) :
    marksFrom? (front ++ a :: b :: c :: rest) front.length =
      marksFrom? (front ++ a :: b :: c :: rest) (front ++ [a]).length := by
  have hcode : codeAt? (front ++ a :: b :: c :: rest) front.length = some false := by
    rw [codeAt?_length]
    simpa [and_assoc] using h
  rw [marksFrom?, if_pos (by simp), hcode, List.length_append, List.length_singleton]
  rfl

theorem marksFrom?_of_short (front : Bytes) {rest : Bytes} (h : rest.length < 3) :
    marksFrom? (front ++ rest) front.length = some [] := by
  rw [marksFrom?, if_neg (by rw [List.length_append]; omega)]

theorem length_pos_of_endsInZero {part : Bytes} (h : endsInZero part = true) : 0 < part.length := by
  refine List.length_pos_iff.mpr ?_
  rintro rfl
  simp [endsInZero] at h

theorem mark_unitAt (offset : Nat) (part payload : Bytes) :
    (unitAt (offset + part.length) part payload).mark =
      ⟨if endsInZero part then offset + part.length - 1 else offset + part.length,
        offset + part.length + 3⟩ := by
  unfold unitAt mark
  dsimp only
  split_ifs with hzero
  · have hpos := length_pos_of_endsInZero hzero
    have hpayload : offset + part.length - 1 + 4 = offset + part.length + 3 := by omega
    rw [hpayload]
  · rfl

/-- Scanning notes the start codes where cutting cuts.  Nothing in front of the octets read since the
last cut makes the next start code longer. -/
theorem marksFrom?_cut (earlier read data : Bytes)
    (hearlier : endsInZero (earlier ++ read.reverse) = endsInZero read.reverse) :
    ∃ part behind, cut read data = part :: behind ∧
      marksFrom? (earlier ++ read.reverse ++ data) (earlier ++ read.reverse).length =
        some ((unitsFrom (earlier.length + part.length) part behind).map mark) := by
  fun_induction cut read data generalizing earlier with
  | case1 read a b c rest hcode ih =>
    obtain ⟨rfl, rfl, rfl⟩ := hcode
    obtain ⟨next, behind, hcut, hmarks⟩ := ih (earlier ++ read.reverse ++ startCode)
      (endsInZero_append_startCode (earlier ++ read.reverse) [])
    refine ⟨read.reverse, next :: behind, by rw [hcut], ?_⟩
    have hdata : earlier ++ read.reverse ++ 0 :: 0 :: 1 :: rest =
        earlier ++ read.reverse ++ startCode ++ rest := by simp [startCode]
    have hplace : (earlier ++ read.reverse ++ startCode).length + next.length =
        earlier.length + read.reverse.length + 3 + next.length := by
      simp only [List.length_append, startCode, List.length_cons, List.length_nil]
    simp only [List.reverse_nil, List.append_nil] at hmarks
    rw [hdata, marksFrom?_startCode, hmarks, hplace, unitsFrom_cons, List.map_cons, mark_unitAt,
      hearlier, List.length_append]
    rfl
  | case2 read a b c rest hcode ih =>
    obtain ⟨part, behind, hcut, hmarks⟩ := ih earlier (by simp [endsInZero])
    refine ⟨part, behind, hcut, ?_⟩
    rw [marksFrom?_cons _ hcode]
    simpa using hmarks
  | case3 read rest hshort =>
    refine ⟨_, [], rfl, ?_⟩
    have hlength : rest.length < 3 := by
      rcases rest with _ | ⟨a, _ | ⟨b, _ | ⟨c, later⟩⟩⟩
      · simp
      · simp
      · simp
      · exact (hshort a b c later rfl).elim
    rw [marksFrom?_of_short _ hlength]
    rfl

/-- The next start code, or the end of the buffer, is where a unit ends. -/
theorem stop_of_placed {offset : Nat} {rest : List NalUnit} (hplaced : placed offset rest = rest) :
    ((rest.map mark).head?.map (·.start)).getD (offset + (rest.flatMap framed).length) =
      offset := by
  cases rest with
  | nil => rfl
  | cons next later =>
    rw [placed, List.cons.injEq] at hplaced
    exact (congrArg NalUnit.start hplaced.1).symm

theorem slice?_payload (front behind : Bytes) {u : NalUnit}
    (hcode : u.codeLength = 3 ∨ u.codeLength = 4) :
    (front ++ u.framed ++ behind).slice? (front.length + u.codeLength)
      (front.length + u.framed.length) = some u.payload := by
  obtain ⟨code, hlength, hframed⟩ : ∃ code : Bytes, code.length = u.codeLength ∧
      u.framed = code ++ u.payload := by
    rcases hcode with h | h
    · exact ⟨startCode, h.symm, by simp [framed, startCode, h]⟩
    · exact ⟨0 :: startCode, h.symm, by simp [framed, startCode, h]⟩
  rw [hframed, ← hlength, List.length_append, ← Nat.add_assoc, ← List.length_append,
    ← List.append_assoc]
  exact Bytes.slice?_append (front ++ code) u.payload behind

/-- Slices between the start codes of consecutive units are these units. -/
theorem slicesAt?_of_placed (front : Bytes) {units : List NalUnit}
    (hplaced : placed front.length units = units)
    (hcode : ∀ u ∈ units, u.codeLength = 3 ∨ u.codeLength = 4) :
    slicesAt? (front ++ units.flatMap framed) (units.map mark) = some (units.map slices) := by
  induction units generalizing front with
  | nil => rfl
  | cons u rest ih =>
    rw [placed, List.cons.injEq] at hplaced
    obtain ⟨hself, hrest⟩ := hplaced
    have hstart : u.mark = ⟨front.length, front.length + u.codeLength⟩ := by
      rw [← hself]
      rfl
    have hslices : u.slices = ⟨front.length, u.framed, u.payload⟩ := by
      rw [← hself]
      rfl
    have hdata : front ++ (u :: rest).flatMap framed =
        front ++ u.framed ++ rest.flatMap framed := by
      rw [List.flatMap_cons, List.append_assoc]
    have hstop : ((rest.map mark).head?.map (·.start)).getD
        (front ++ u.framed ++ rest.flatMap framed).length = front.length + u.framed.length := by
      rw [List.length_append, List.length_append]
      exact stop_of_placed hrest
    have hlater := ih (front ++ u.framed) (by rwa [List.length_append]) fun other hother ↦
      hcode other (List.mem_cons_of_mem u hother)
    have hwhole := Bytes.slice?_append front u.framed (rest.flatMap framed)
    have hpayload := slice?_payload front (rest.flatMap framed) (hcode u List.mem_cons_self)
    rw [List.map_cons, hstart, slicesAt?, hdata, hstop, hwhole, hpayload, hlater, List.map_cons,
      hslices]
    rfl

/-! ## Splitting any buffer -/

theorem le_start_of_mem_placed {offset : Nat} {units : List NalUnit} {u : NalUnit}
    (h : u ∈ placed offset units) : offset ≤ u.start := by
  induction units generalizing offset with
  | nil => simp [placed] at h
  | cons first rest ih =>
    rcases List.mem_cons.mp h with rfl | hrest
    · exact le_refl offset
    · exact le_trans (Nat.le_add_right offset _) (ih hrest)

/-- Units that lie one behind the other do not overlap. -/
theorem pairwise_placed (offset : Nat) (units : List NalUnit) :
    (placed offset units).Pairwise fun u v ↦ u.start + u.framed.length ≤ v.start := by
  induction units generalizing offset with
  | nil => exact List.Pairwise.nil
  | cons u rest ih =>
    rw [placed]
    exact List.Pairwise.cons (fun v hv ↦ le_start_of_mem_placed hv) (ih _)

/-- A buffer cut open at its start codes: what precedes them, and the units of all of them, one
behind the other. -/
structure Dissected (data lead : Bytes) (units : List NalUnit) : Prop where
  joined : data = lead ++ units.flatMap framed
  codeFree : CodeFree lead
  placed : NalUnit.placed lead.length units = units
  located : ∀ u ∈ units, Located data u

/-- Either a buffer has no start code, or its units are those of its start codes, less the bare
ones.  Scanning notes the same start codes. -/
theorem codeFree_or_exists_dissected (data : Bytes) :
    CodeFree data ∧ marksFrom? data 0 = some [] ∧
        split data = (if data.isEmpty then [] else [⟨0, 0, data⟩]) ∨
      ∃ lead units, units ≠ [] ∧ Dissected data lead units ∧
        marksFrom? data 0 = some (units.map mark) ∧
        split data = units.filter (!·.payload.isEmpty) := by
  obtain ⟨part, behind, hcut, hdata⟩ := cut_joined [] data
  obtain ⟨_, _, hsame, hmarks⟩ := marksFrom?_cut [] [] data rfl
  obtain ⟨rfl, rfl⟩ := List.cons.inj (hcut.symm.trans hsame)
  have hfree : ∀ other ∈ part :: behind, CodeFree other := by
    rw [← hcut]
    apply codeFree_of_mem_cut
    apply codeFree_of_length_lt
    simp only [List.reverse_nil, List.nil_append, List.length_take]
    omega
  simp only [List.reverse_nil, List.nil_append, List.length_nil, Nat.zero_add] at hdata hmarks
  cases behind with
  | nil =>
    left
    refine ⟨?_, hmarks, ?_⟩
    · rw [hdata]
      simpa [joined] using hfree part List.mem_cons_self
    · rw [split, parts, hcut]
  | cons next later =>
    right
    refine ⟨stem part (next :: later), unitsFrom part.length part (next :: later),
      List.cons_ne_nil _ _, ?_, hmarks, ?_⟩
    · refine ⟨hdata.trans (joined_eq _ _ _), ?_, ?_, ?_⟩
      · exact CodeFree.of_infix (hfree part List.mem_cons_self) (stem_isPrefix part _).isInfix
      · simpa using placed_unitsFrom 0 part (next :: later)
      · have hlocated := @located_unitsFrom [] part (next :: later) rfl fun other hother ↦
          hfree other (List.mem_cons_of_mem part hother)
        simpa [← hdata] using hlocated
    · rw [split, parts, hcut]

/-- Scanning with offsets reads nothing past the end of a buffer, and finds what splitting finds. -/
theorem scan?_eq (data : Bytes) : scan? data = some ((split data).map slices) := by
  rcases codeFree_or_exists_dissected data with
    ⟨-, hmarks, hsplit⟩ | ⟨lead, units, hunits, hdissected, hmarks, hsplit⟩
  · rw [scan?, hmarks, hsplit]
    cases data <;> rfl
  · have hcode : ∀ u ∈ units, u.codeLength = 3 ∨ u.codeLength = 4 :=
      fun u hu ↦ (hdissected.located u hu).code
    have hslices := slicesAt?_of_placed lead hdissected.placed hcode
    rw [← hdissected.joined] at hslices
    have hsome : (units.map mark).isEmpty = false := by simpa using hunits
    have hfilter : (units.map slices).filter (!·.payload.isEmpty) =
        (units.filter (!·.payload.isEmpty)).map slices := by
      rw [List.filter_map]
      rfl
    rw [scan?, hmarks, hsplit, Option.bind_eq_bind, Option.bind_some, hsome, hslices, ← hfilter]
    rfl

theorem Dissected.startCode_isInfix {data lead : Bytes} {units : List NalUnit}
    (h : Dissected data lead units) (hunits : units ≠ []) : startCode <:+: data := by
  cases units with
  | nil => exact absurd rfl hunits
  | cons u rest =>
    have hframed : startCode <:+: u.framed := by
      rcases (h.located u List.mem_cons_self).code with hcode | hcode
      · exact ⟨[], u.payload, by simp [framed, startCode, hcode]⟩
      · exact ⟨[0], u.payload, by simp [framed, startCode, hcode]⟩
    rw [h.joined]
    exact hframed.trans ⟨lead, rest.flatMap framed, by simp⟩

/-- Splitting, for every buffer.  Scanning with offsets never leaves the buffer and finds the same
units; these do not overlap and none is empty.  With start codes in the buffer, the units and the
bare codes make up all of it from the first start code on.  Without any, the buffer is one unit. -/
theorem split_any_buffer (data : Bytes) :
    scan? data = some ((split data).map slices) ∧
      ((split data).Pairwise fun u v ↦ u.start + u.framed.length ≤ v.start) ∧
      (∀ u ∈ split data, u.payload ≠ []) ∧
      (startCode <:+: data → ∃ lead units, units ≠ [] ∧ Dissected data lead units ∧
        split data = units.filter (!·.payload.isEmpty)) ∧
      (¬startCode <:+: data → split data = if data.isEmpty then [] else [⟨0, 0, data⟩]) := by
  refine ⟨scan?_eq data, ?_⟩
  rcases codeFree_or_exists_dissected data with
    ⟨hfree, -, hsplit⟩ | ⟨lead, units, hunits, hdissected, -, hsplit⟩
  · refine ⟨?_, ?_, fun hcode ↦ absurd hcode hfree, fun _ ↦ hsplit⟩
    · rw [hsplit]
      split_ifs
      · exact List.Pairwise.nil
      · exact List.pairwise_singleton _ _
    · intro u hu
      rw [hsplit] at hu
      split_ifs at hu with hempty
      · simp at hu
      · rw [List.mem_singleton.mp hu]
        simpa using hempty
  · refine ⟨?_, ?_, fun _ ↦ ⟨lead, units, hunits, hdissected, hsplit⟩, fun hfree ↦
      absurd (hdissected.startCode_isInfix hunits) hfree⟩
    · have hpairwise := pairwise_placed lead.length units
      rw [hdissected.placed] at hpairwise
      rw [hsplit]
      exact hpairwise.filter _
    · intro u hu
      rw [hsplit] at hu
      simpa using (List.mem_filter.mp hu).2

/-- A bare code, zero octets in front of a long code, a code right behind another one, and the
beginnings of a code at the end; and a buffer with nothing but such beginnings. -/
theorem split_any_buffer_bare_codes :
    let data : Bytes := [9, 0, 0, 1, 0, 0, 0, 1, 7, 0, 0, 0, 0, 1, 0, 0, 1, 0, 0, 2, 0, 0]
    let plain : Bytes := [0, 0, 2, 0, 0]
    startCode <:+: data ∧ ¬startCode <:+: plain ∧
      split data = [⟨4, 4, [7, 0]⟩, ⟨14, 3, [0, 0, 2, 0, 0]⟩] ∧
      (∃ lead units, units ≠ [] ∧ Dissected data lead units ∧
        split data = units.filter (!·.payload.isEmpty)) ∧
      split plain = [⟨0, 0, plain⟩] := by
  intro data plain
  have hdata : startCode <:+: data := by decide
  have hplain : ¬startCode <:+: plain := by decide
  obtain ⟨-, -, -, hunits, -⟩ := split_any_buffer data
  obtain ⟨-, -, -, -, hwhole⟩ := split_any_buffer plain
  exact ⟨hdata, hplain, by decide, hunits hdata, hwhole hplain⟩

end AnnexB

end LiveCamera
