import LiveCamera.Proofs.Hevc.Lossless

/-!
# Sizes of H.265 payloads

Whatever limits the calls have, a payloader holds parameter sets with a whole header and nothing
else (`HoldsSets`).  So every call sends whole units that fit, aggregation packets that fit, and
fragments of units that do not fit; `Conveys` says which payloads belong to which units, and
`IsFragmented` how the fragments of a unit look.
-/

namespace LiveCamera.Hevc

/-! ## Fragments -/

/-- Whether a fragment is the first one of its unit. -/
def startsUnit (payload : Bytes) : Bool := payload[2]?.any (· &&& 0x80 != 0)

/-- Whether a fragment is the last one of its unit. -/
def endsUnit (payload : Bytes) : Bool := payload[2]?.any (· &&& 0x40 != 0)

/-- The fragments of a unit that does not fit: at least two, with an octet of the unit in each, of
which the first one alone starts the unit and the last one alone ends it. -/
structure IsFragmented (mtu : Nat) (unit : Bytes) (payloads : List Bytes) : Prop where
  several : 2 ≤ payloads.length
  type : ∀ payload ∈ payloads, Codec.h265.unitType? payload = some fragmentType
  length : ∀ payload ∈ payloads, 3 < payload.length ∧ payload.length ≤ mtu
  starts : ∀ index payload, payloads[index]? = some payload →
    (startsUnit payload = true ↔ index = 0)
  ends : ∀ index payload, payloads[index]? = some payload →
    (endsUnit payload = true ↔ index + 1 = payloads.length)
  body : payloads.flatMap (·.drop 3) = unit.drop 2

section

variable (first second : UInt8) (count : Nat) (piece : Bytes × Nat)

theorem unitType?_piecePayload :
    Codec.h265.unitType? (piecePayload first second count piece) = some fragmentType := by
  change some (typeOf (fragmentFirst first)) = some fragmentType
  rw [typeOf_fragmentFirst]

theorem length_piecePayload :
    (piecePayload first second count piece).length = piece.1.length + 3 := by
  simp [piecePayload]

theorem startsUnit_piecePayload :
    startsUnit (piecePayload first second count piece) = decide (piece.2 = 0) := by
  simp [startsUnit, piecePayload]

theorem endsUnit_piecePayload :
    endsUnit (piecePayload first second count piece) = decide (piece.2 + 1 = count) := by
  simp [endsUnit, piecePayload]

theorem drop_piecePayload : (piecePayload first second count piece).drop 3 = piece.1 := rfl

end

/-- How many pieces a unit is cut into whose body is that long. -/
abbrev pieceCount (mtu length : Nat) : Nat := (length + (mtu - 3) - 1) / (mtu - 3)

theorem length_fragment (mtu : Nat) (first second : UInt8) (body : Bytes) :
    (fragment mtu (first :: second :: body)).length = pieceCount mtu body.length := by
  rw [fragment_eq, List.length_map, List.length_zipIdx, length_stretches]

theorem getElem?_fragment {mtu : Nat} {first second : UInt8} {body payload : Bytes} {index : Nat}
    (h : (fragment mtu (first :: second :: body))[index]? = some payload) :
    index < pieceCount mtu body.length ∧
      payload = piecePayload first second (pieceCount mtu body.length)
        ((body.drop ((mtu - 3) * index)).take (mtu - 3), index) := by
  obtain ⟨hindex, -⟩ := List.getElem?_eq_some_iff.mp h
  rw [length_fragment] at hindex
  refine ⟨hindex, ?_⟩
  rw [fragment_eq, List.getElem?_map, List.getElem?_zipIdx, getElem?_stretches _ _ hindex] at h
  simpa using h.symm

/-- Every piece of a body has an octet. -/
theorem mul_lt_of_lt_pieceCount {mtu length index : Nat} (hmtu : 4 ≤ mtu)
    (hindex : index < pieceCount mtu length) : (mtu - 3) * index < length := by
  have hmul := (Nat.le_div_iff_mul_le (by omega)).mp (Nat.succ_le_of_lt hindex)
  rw [Nat.succ_mul, Nat.mul_comm] at hmul
  omega

theorem isFragmented_fragment {mtu : Nat} (hmtu : 4 ≤ mtu) (first second : UInt8) {body : Bytes}
    (hlong : mtu < body.length + 2) :
    IsFragmented mtu (first :: second :: body) (fragment mtu (first :: second :: body)) where
  several := by
    rw [length_fragment]
    exact one_lt_pieceCount hmtu hlong
  type payload hpayload := by
    obtain ⟨index, hget⟩ := List.mem_iff_getElem?.mp hpayload
    rw [(getElem?_fragment hget).2]
    exact unitType?_piecePayload _ _ _ _
  length payload hpayload := by
    obtain ⟨index, hget⟩ := List.mem_iff_getElem?.mp hpayload
    obtain ⟨hindex, rfl⟩ := getElem?_fragment hget
    have hbody := mul_lt_of_lt_pieceCount hmtu hindex
    rw [length_piecePayload, List.length_take, List.length_drop]
    omega
  starts index payload hget := by
    rw [(getElem?_fragment hget).2, startsUnit_piecePayload, decide_eq_true_eq]
  ends index payload hget := by
    rw [(getElem?_fragment hget).2, endsUnit_piecePayload, decide_eq_true_eq, length_fragment]
  body := by
    calc
      (fragment mtu (first :: second :: body)).flatMap (·.drop 3) =
          (stretches (mtu - 3) (pieceCount mtu body.length) body).flatten := by
        rw [fragment_eq, List.flatMap_map]
        simp only [drop_piecePayload]
        rw [List.flatMap_def, List.zipIdx_map_fst]
      _ = body.take ((mtu - 3) * pieceCount mtu body.length) := flatten_stretches _ _ _
      _ = body := List.take_of_length_le (length_le_pieces hmtu)

/-! ## What payloads belong to which units -/

/-- The payloads that carry some units: one that fits, parameter sets together in one packet that
fits, or one unit that does not fit in fragments. -/
inductive Carries (mtu : Nat) : List Bytes → List Bytes → Prop
  | whole {unit : Bytes} (hfits : unit.length ≤ mtu) : Carries mtu [unit] [unit]
  | together {sets : List Bytes} (hseveral : 2 ≤ sets.length)
      (hfits : aggregateLength sets ≤ mtu) : Carries mtu sets [aggregate sets]
  | pieces {unit : Bytes} {payloads : List Bytes} (hlong : mtu < unit.length)
      (hpieces : IsFragmented mtu unit payloads) : Carries mtu [unit] payloads

/-- The payloads that carry units one after the other, a group at a time. -/
def Conveys (mtu : Nat) (units payloads : List Bytes) : Prop :=
  ∃ groups : List (List Bytes × List Bytes), groups.flatMap (·.1) = units ∧
    groups.flatMap (·.2) = payloads ∧ ∀ group ∈ groups, Carries mtu group.1 group.2

theorem length_aggregate (sets : List Bytes) :
    (aggregate sets).length = aggregateLength sets := by
  simp only [aggregate, List.length_append, List.length_flatMap, Bytes.length_ofLength,
    List.sum_eq_foldr]
  rfl

/-- No payload is longer than the limit, and none is shorter than a header. -/
theorem Carries.length_bounds {mtu : Nat} {units payloads : List Bytes}
    (h : Carries mtu units payloads) (hheaders : ∀ unit ∈ units, 2 ≤ unit.length) :
    ∀ payload ∈ payloads, 2 ≤ payload.length ∧ payload.length ≤ mtu := by
  intro payload hpayload
  cases h with
  | whole hfits =>
    obtain rfl := List.mem_singleton.mp hpayload
    exact ⟨hheaders payload List.mem_cons_self, hfits⟩
  | together hseveral hfits =>
    obtain rfl := List.mem_singleton.mp hpayload
    rw [length_aggregate]
    exact ⟨Nat.le_add_right 2 _, hfits⟩
  | pieces hlong hpieces =>
    have hlength := hpieces.length payload hpayload
    omega

theorem Carries.isFragmented {mtu : Nat} {units payloads : List Bytes}
    (h : Carries mtu units payloads) {unit : Bytes} (hunit : unit ∈ units)
    (hlong : mtu < unit.length) : IsFragmented mtu unit payloads := by
  cases h with
  | whole hfits =>
    rw [List.mem_singleton.mp hunit] at hlong
    omega
  | together hseveral hfits =>
    have hlength := length_le_aggregateLength hunit
    omega
  | pieces _ hpieces => rwa [List.mem_singleton.mp hunit]

namespace Conveys

variable {mtu : Nat} {units payloads others rest : List Bytes}

theorem nil (mtu : Nat) : Conveys mtu [] [] := ⟨[], rfl, rfl, by simp⟩

theorem of_carries (h : Carries mtu units payloads) : Conveys mtu units payloads :=
  ⟨[(units, payloads)], by simp, by simp, by simpa using h⟩

theorem append (h : Conveys mtu units payloads) (hrest : Conveys mtu others rest) :
    Conveys mtu (units ++ others) (payloads ++ rest) := by
  obtain ⟨groups, rfl, rfl, hgroups⟩ := h
  obtain ⟨later, rfl, rfl, hlater⟩ := hrest
  refine ⟨groups ++ later, List.flatMap_append, List.flatMap_append, fun group hgroup ↦ ?_⟩
  rcases List.mem_append.mp hgroup with hgroup | hgroup
  · exact hgroups group hgroup
  · exact hlater group hgroup

theorem length_bounds (h : Conveys mtu units payloads) (hheaders : ∀ unit ∈ units, 2 ≤ unit.length) :
    ∀ payload ∈ payloads, 2 ≤ payload.length ∧ payload.length ≤ mtu := by
  obtain ⟨groups, rfl, rfl, hgroups⟩ := h
  intro payload hpayload
  obtain ⟨group, hgroup, hmem⟩ := List.mem_flatMap.mp hpayload
  refine Carries.length_bounds (hgroups group hgroup) (fun unit hunit ↦ ?_) payload hmem
  exact hheaders unit (List.mem_flatMap.mpr ⟨group, hgroup, hunit⟩)

/-- A unit that does not fit is carried in fragments. -/
theorem exists_fragments (h : Conveys mtu units payloads) {unit : Bytes} (hunit : unit ∈ units)
    (hlong : mtu < unit.length) :
    ∃ before fragments behind, payloads = before ++ fragments ++ behind ∧
      IsFragmented mtu unit fragments := by
  obtain ⟨groups, rfl, rfl, hgroups⟩ := h
  obtain ⟨group, hgroup, hmem⟩ := List.mem_flatMap.mp hunit
  obtain ⟨earlier, later, rfl⟩ := List.append_of_mem hgroup
  refine ⟨earlier.flatMap (·.2), group.2, later.flatMap (·.2), by simp, ?_⟩
  exact (hgroups group hgroup).isFragmented hmem hlong

end Conveys

theorem conveys_single {mtu : Nat} (hmtu : 4 ≤ mtu) {unit : Bytes} (hheader : 2 ≤ unit.length) :
    Conveys mtu [unit] (single mtu unit) := by
  unfold single
  split_ifs with hfits
  · exact .of_carries (.whole hfits)
  · rw [Nat.not_le] at hfits
    obtain ⟨first, second, body, rfl⟩ := exists_header_of_two_le_length hheader
    exact .of_carries (.pieces hfits (isFragmented_fragment hmtu first second hfits))

/-- Parameter sets that are sent are carried in order, together or one after the other. -/
theorem conveys_sendSets {mtu : Nat} (hmtu : 4 ≤ mtu) {sets : List Bytes}
    (hheaders : ∀ set ∈ sets, 2 ≤ set.length) : Conveys mtu sets (sendSets mtu sets) := by
  unfold sendSets
  split_ifs with hseparate
  · clear hseparate
    induction sets with
    | nil => exact .nil mtu
    | cons set sets ih =>
      have hset := conveys_single hmtu (hheaders set List.mem_cons_self)
      have hsets := ih fun other hother ↦ hheaders other (List.mem_cons_of_mem set hother)
      exact hset.append hsets
  · rw [not_or, Nat.not_lt, Nat.not_lt] at hseparate
    exact .of_carries (.together hseparate.1 hseparate.2)

/-! ## Calls in any state -/

/-- Whatever follows it, a unit that is no parameter set is sent with all that precedes it. -/
theorem rdropWhile_append_cons (before : List Bytes) {unit : Bytes}
    (hset : ¬isParameterSet unit = true) (rest : List Bytes) :
    (before ++ unit :: rest).rdropWhile isParameterSet =
      before ++ [unit] ++ rest.rdropWhile isParameterSet := by
  induction rest using List.reverseRecOn with
  | nil =>
    rw [List.rdropWhile_concat_neg _ _ _ hset]
    simp
  | append_singleton rest last ih =>
    have hassoc : before ++ unit :: (rest ++ [last]) = before ++ unit :: rest ++ [last] := by simp
    rw [hassoc]
    by_cases hlast : isParameterSet last = true
    · rw [List.rdropWhile_concat_pos _ _ _ hlast, List.rdropWhile_concat_pos _ _ _ hlast, ih]
    · rw [List.rdropWhile_concat_neg _ _ _ hlast, List.rdropWhile_concat_neg _ _ _ hlast]
      simp

namespace Payloader

/-- What is held are parameter sets with a whole header. -/
def HoldsSets (p : Payloader) : Prop :=
  ∀ set ∈ p.held, isKept set = true ∧ isParameterSet set = true

theorem holdsSets_fresh : fresh.HoldsSets := by simp [HoldsSets, fresh]

namespace HoldsSets

variable {p : Payloader}

theorem two_le_length (h : p.HoldsSets) : ∀ set ∈ p.held, 2 ≤ set.length :=
  fun set hset ↦ two_le_length_of_isKept (h set hset).1

theorem pushUnit (h : p.HoldsSets) (mtu : Nat) (unit : Bytes) :
    (p.pushUnit mtu unit).2.HoldsSets := by
  rcases p.pushUnit_cases mtu unit with ⟨-, hpush⟩ | ⟨hkept, hset, hpush⟩ | ⟨-, -, hpush⟩
  · rw [hpush]
    exact h
  · rw [hpush]
    intro other hother
    rcases List.mem_append.mp hother with hother | hother
    · exact h other hother
    · rw [List.mem_singleton.mp hother]
      exact ⟨hkept, hset⟩
  · rw [hpush]
    exact holdsSets_fresh

theorem pushUnits (h : p.HoldsSets) (mtu : Nat) (units : List Bytes) :
    (p.pushUnits mtu units).2.HoldsSets := by
  induction units generalizing p with
  | nil => exact h
  | cons unit units ih => exact ih (h.pushUnit mtu unit)

theorem payload (h : p.HoldsSets) (mtu : Nat) (data : Bytes) :
    (p.payload mtu data).2.HoldsSets := by
  unfold Payloader.payload
  split_ifs
  · exact h
  · exact h.pushUnits mtu _

/-- Every call keeps it, whatever its limit. -/
theorem payloadAll (h : p.HoldsSets) (calls : List (Nat × Bytes)) :
    (p.payloadAll calls).2.HoldsSets := by
  induction calls generalizing p with
  | nil => exact h
  | cons call calls ih => exact ih (h.payload call.1 call.2)

/-- Consecutive units are carried, with the parameter sets that were held, up to the last one that is
no parameter set. -/
theorem conveys_pushUnits (h : p.HoldsSets) {mtu : Nat} (hmtu : 4 ≤ mtu) (units : List Bytes) :
    Conveys mtu ((p.held ++ units.filter isKept).rdropWhile isParameterSet)
      (p.pushUnits mtu units).1 := by
  induction units generalizing p with
  | nil =>
    have hnone : p.held.rdropWhile isParameterSet = [] :=
      List.rdropWhile_eq_nil_iff.mpr fun set hset ↦ (h set hset).2
    rw [List.filter_nil, List.append_nil, hnone]
    exact .nil mtu
  | cons unit units ih =>
    have hrest := ih (h.pushUnit mtu unit)
    rw [Payloader.pushUnits]
    rcases p.pushUnit_cases mtu unit with ⟨hkept, hpush⟩ | ⟨hkept, -, hpush⟩ | ⟨hkept, hset, hpush⟩
    · rw [List.filter_cons_of_neg (by simp [hkept])]
      simpa [hpush] using hrest
    · rw [List.filter_cons_of_pos hkept]
      simpa [hpush] using hrest
    · have hheld := conveys_sendSets hmtu h.two_le_length
      have hunit := conveys_single hmtu (two_le_length_of_isKept hkept)
      rw [List.filter_cons_of_pos hkept, rdropWhile_append_cons _ (by simp [hset])]
      simp only [hpush, List.nil_append] at hrest ⊢
      exact (hheld.append hunit).append hrest

end HoldsSets

end Payloader

end LiveCamera.Hevc
