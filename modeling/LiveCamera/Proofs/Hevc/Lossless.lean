import LiveCamera.NalKind
import LiveCamera.Proofs.Hevc.Reassembly
import Mathlib.Data.List.DropRight

/-!
# Packetization of H.265 loses nothing

A payloader is called again and again, with a limit that may change from call to call.  At every
moment the units kept so far fall into two parts: what the payloads sent so far bring the receiver,
and the parameter sets behind it, which the payloader holds.  `Transferred` states this, every unit
keeps it, and `receiveAll_payloadAll` is what it comes to over all calls.
-/

namespace LiveCamera.Hevc

/-- The NAL units of an access unit. -/
def unitsOf (data : Bytes) : List Bytes := (AnnexB.split data).map (·.payload)

/-- Whether a unit is a video, sequence or picture parameter set. -/
def isParameterSet (unit : Bytes) : Bool :=
  (Codec.h265.unitType? unit).any fun type ↦ type == vps || type == sps || type == pps

/-- Whether a unit is for the receiver: it has a whole header and is neither delimiter nor
filler. -/
def isKept (unit : Bytes) : Bool :=
  2 ≤ unit.length &&
    (Codec.h265.unitType? unit).all fun type ↦ type != delimiter && type != filler

theorem isParameterSet_cons (first : UInt8) (rest : Bytes) :
    isParameterSet (first :: rest) = true ↔
      typeOf first = vps ∨ typeOf first = sps ∨ typeOf first = pps := by
  simp [isParameterSet, Codec.unitType?, typeOf, or_assoc]

theorem isKept_cons_cons (first second : UInt8) (rest : Bytes) :
    isKept (first :: second :: rest) = true ↔
      ¬(typeOf first = delimiter ∨ typeOf first = filler) := by
  simp [isKept, Codec.unitType?, typeOf]

theorem exists_header_of_two_le_length {unit : Bytes} (h : 2 ≤ unit.length) :
    ∃ first second rest, unit = first :: second :: rest := by
  rcases unit with _ | ⟨first, _ | ⟨second, rest⟩⟩
  · simp at h
  · simp at h
  · exact ⟨first, second, rest, rfl⟩

theorem two_le_length_of_isKept {unit : Bytes} (h : isKept unit = true) : 2 ≤ unit.length := by
  unfold isKept at h
  exact of_decide_eq_true (Bool.and_eq_true_iff.mp h).1

/-- A kept unit has a whole header. -/
theorem exists_header_of_isKept {unit : Bytes} (h : isKept unit = true) :
    ∃ first second rest, unit = first :: second :: rest :=
  exists_header_of_two_le_length (two_le_length_of_isKept h)

/-- What becomes of one unit. -/
theorem Payloader.pushUnit_cases (p : Payloader) (mtu : Nat) (unit : Bytes) :
    isKept unit = false ∧ p.pushUnit mtu unit = ([], p) ∨
      isKept unit = true ∧ isParameterSet unit = true ∧
        p.pushUnit mtu unit = ([], ⟨p.held ++ [unit]⟩) ∨
      isKept unit = true ∧ isParameterSet unit = false ∧
        p.pushUnit mtu unit = (sendSets mtu p.held ++ single mtu unit, ⟨[]⟩) := by
  rcases unit with _ | ⟨first, _ | ⟨second, rest⟩⟩
  · exact .inl ⟨rfl, rfl⟩
  · exact .inl ⟨rfl, rfl⟩
  · have hkept := isKept_cons_cons first second rest
    have hset := isParameterSet_cons first (second :: rest)
    simp only [Payloader.pushUnit]
    split_ifs with hdropped hheld
    · exact .inl ⟨Bool.eq_false_iff.mpr fun hunit ↦ hkept.mp hunit hdropped, rfl⟩
    · exact .inr (.inl ⟨hkept.mpr hdropped, hset.mpr hheld, rfl⟩)
    · exact .inr (.inr ⟨hkept.mpr hdropped, Bool.eq_false_iff.mpr (mt hset.mp hheld), rfl⟩)

theorem receiveAll_single_of_isKept {mtu : Nat} (hmtu : 4 ≤ mtu) {unit : Bytes}
    (hkept : isKept unit = true) (htype : ∀ type ∈ Codec.h265.unitType? unit, type ≤ 47) :
    Depayloader.fresh.receiveAll (single mtu unit) = some ([unit], .fresh) := by
  obtain ⟨first, second, rest, rfl⟩ := exists_header_of_isKept hkept
  exact receiveAll_single hmtu second rest (htype _ rfl)

theorem receiveAll_single_of_isParameterSet {mtu : Nat} (hmtu : 4 ≤ mtu) {set : Bytes}
    (hkept : isKept set = true) (hset : isParameterSet set = true) :
    Depayloader.fresh.receiveAll (single mtu set) = some ([set], .fresh) := by
  apply receiveAll_single_of_isKept hmtu hkept
  intro type htype
  have hsets : type = vps ∨ type = sps ∨ type = pps := by
    simpa [isParameterSet, Option.mem_def.mp htype, or_assoc] using hset
  rcases hsets with rfl | rfl | rfl <;> simp [vps, sps, pps]

theorem receiveAll_flatMap_single {mtu : Nat} (hmtu : 4 ≤ mtu) {sets : List Bytes}
    (hkept : ∀ set ∈ sets, isKept set = true) (hsets : ∀ set ∈ sets, isParameterSet set = true) :
    Depayloader.fresh.receiveAll (sets.flatMap (single mtu)) = some (sets, .fresh) := by
  induction sets with
  | nil => rfl
  | cons set sets ih =>
    have hset := receiveAll_single_of_isParameterSet hmtu (hkept set List.mem_cons_self)
      (hsets set List.mem_cons_self)
    have hrest := ih (fun other hother ↦ hkept other (List.mem_cons_of_mem set hother))
      fun other hother ↦ hsets other (List.mem_cons_of_mem set hother)
    exact Depayloader.receiveAll_append hset hrest

/-- Parameter sets that are sent, together or one after the other, are received in order. -/
theorem receiveAll_sendSets {mtu : Nat} (hmtu : 4 ≤ mtu) (hlimit : mtu ≤ 65535) {sets : List Bytes}
    (hkept : ∀ set ∈ sets, isKept set = true) (hsets : ∀ set ∈ sets, isParameterSet set = true) :
    Depayloader.fresh.receiveAll (sendSets mtu sets) = some (sets, .fresh) := by
  unfold sendSets
  split_ifs with hseparate
  · exact receiveAll_flatMap_single hmtu hkept hsets
  · rw [not_or, Nat.not_lt, Nat.not_lt] at hseparate
    have hshort : ∀ set ∈ sets, set.length < 65536 := by
      intro set hset
      have := length_le_aggregateLength hset
      omega
    have hdone : Depayloader.fresh.receiveAll [] = some ([], .fresh) := rfl
    simpa using Depayloader.receiveAll_cons (receive_aggregate hseparate.1 hshort) hdone

/-- Where a stream has come to: of the kept units `units`, the payloads sent so far bring the
receiver everything up to the last unit that is no parameter set, and the rest waits. -/
structure Transferred (units payloads : List Bytes) (p : Payloader) : Prop where
  kept : ∀ unit ∈ units, isKept unit = true
  received : Depayloader.fresh.receiveAll payloads =
    some (units.rdropWhile isParameterSet, .fresh)
  held : p.held = units.rtakeWhile isParameterSet

namespace Transferred

variable {units payloads : List Bytes} {p : Payloader}

theorem start : Transferred [] [] .fresh := ⟨by simp, rfl, rfl⟩

theorem kept_concat (h : Transferred units payloads p) {unit : Bytes} (hunit : isKept unit = true) :
    ∀ other ∈ units ++ [unit], isKept other = true := by
  intro other hother
  rcases List.mem_append.mp hother with hother | hother
  · exact h.kept other hother
  · rwa [List.mem_singleton.mp hother]

/-- A parameter set waits. -/
theorem hold (h : Transferred units payloads p) {unit : Bytes} (hunit : isKept unit = true)
    (hset : isParameterSet unit = true) :
    Transferred (units ++ [unit]) payloads ⟨p.held ++ [unit]⟩ where
  kept := h.kept_concat hunit
  received := by
    rw [List.rdropWhile_concat_pos _ _ _ hset]
    exact h.received
  held := by rw [List.rtakeWhile_concat_pos _ _ _ hset, h.held]

theorem receiveAll_held (h : Transferred units payloads p) {mtu : Nat} (hmtu : 4 ≤ mtu)
    (hlimit : mtu ≤ 65535) :
    Depayloader.fresh.receiveAll (sendSets mtu p.held) = some (p.held, .fresh) := by
  apply receiveAll_sendSets hmtu hlimit
  · intro set hmem
    rw [h.held] at hmem
    exact h.kept set ((List.rtakeWhile_suffix _ _).mem hmem)
  · intro set hmem
    rw [h.held] at hmem
    exact List.mem_rtakeWhile_imp hmem

/-- Any other unit is sent behind the parameter sets that wait. -/
theorem send (h : Transferred units payloads p) {mtu : Nat} (hmtu : 4 ≤ mtu) (hlimit : mtu ≤ 65535)
    {unit : Bytes} (hunit : isKept unit = true) (hset : isParameterSet unit = false)
    (htype : ∀ type ∈ Codec.h265.unitType? unit, type ≤ 47) :
    Transferred (units ++ [unit]) (payloads ++ (sendSets mtu p.held ++ single mtu unit)) ⟨[]⟩ where
  kept := h.kept_concat hunit
  received := by
    -- The parameter sets that wait are the last ones of `units`, so nothing is out of order.
    have hwaiting := h.receiveAll_held hmtu hlimit
    have hsent := Depayloader.receiveAll_append h.received
      (Depayloader.receiveAll_append hwaiting (receiveAll_single_of_isKept hmtu hunit htype))
    rw [hsent, h.held, ← List.append_assoc, List.rdropWhile_append_rtakeWhile,
      List.rdropWhile_concat_neg _ _ _ (ne_true_of_eq_false hset)]
  held := by rw [List.rtakeWhile_concat_neg _ _ _ (ne_true_of_eq_false hset)]

/-- Every unit keeps the stream in step. -/
theorem pushUnit (h : Transferred units payloads p) {mtu : Nat} (hmtu : 4 ≤ mtu)
    (hlimit : mtu ≤ 65535) {unit : Bytes} (htype : ∀ type ∈ Codec.h265.unitType? unit, type ≤ 47) :
    Transferred (units ++ [unit].filter isKept) (payloads ++ (p.pushUnit mtu unit).1)
      (p.pushUnit mtu unit).2 := by
  rcases p.pushUnit_cases mtu unit with ⟨hdropped, hpush⟩ | ⟨hkept, hset, hpush⟩ |
      ⟨hkept, hset, hpush⟩
  · rw [hpush, List.filter_cons_of_neg (ne_true_of_eq_false hdropped)]
    simpa using h
  · rw [hpush, List.filter_cons_of_pos hkept, List.append_nil]
    exact h.hold hkept hset
  · rw [hpush, List.filter_cons_of_pos hkept]
    exact h.send hmtu hlimit hkept hset htype

theorem pushUnits (h : Transferred units payloads p) {mtu : Nat} (hmtu : 4 ≤ mtu)
    (hlimit : mtu ≤ 65535) {more : List Bytes}
    (htype : ∀ unit ∈ more, ∀ type ∈ Codec.h265.unitType? unit, type ≤ 47) :
    Transferred (units ++ more.filter isKept) (payloads ++ (p.pushUnits mtu more).1)
      (p.pushUnits mtu more).2 := by
  induction more generalizing units payloads p with
  | nil => simpa [Payloader.pushUnits] using h
  | cons unit more ih =>
    have hunit := h.pushUnit hmtu hlimit (htype unit List.mem_cons_self)
    have hmore := ih hunit fun other hother ↦ htype other (List.mem_cons_of_mem unit hother)
    rw [← List.singleton_append, List.filter_append]
    simpa [Payloader.pushUnits, List.append_assoc] using hmore

/-- Every call keeps the stream in step. -/
theorem payload (h : Transferred units payloads p) {mtu : Nat} (hmtu : 4 ≤ mtu)
    (hlimit : mtu ≤ 65535) {data : Bytes}
    (htype : ∀ unit ∈ unitsOf data, ∀ type ∈ Codec.h265.unitType? unit, type ≤ 47) :
    Transferred (units ++ (unitsOf data).filter isKept) (payloads ++ (p.payload mtu data).1)
      (p.payload mtu data).2 := by
  rw [Payloader.payload, if_neg (by omega)]
  exact h.pushUnits hmtu hlimit htype

end Transferred

/-- The payloads of consecutive calls, each with a limit of its own. -/
def Payloader.payloadAll (p : Payloader) : List (Nat × Bytes) → List Bytes × Payloader
  | [] => ([], p)
  | (mtu, data) :: rest =>
    let sent := p.payload mtu data
    let later := sent.2.payloadAll rest
    (sent.1 ++ later.1, later.2)

theorem Transferred.payloadAll {units payloads : List Bytes} {p : Payloader}
    (h : Transferred units payloads p) {calls : List (Nat × Bytes)}
    (hmtu : ∀ call ∈ calls, 4 ≤ call.1 ∧ call.1 ≤ 65535)
    (htype : ∀ call ∈ calls, ∀ unit ∈ unitsOf call.2, ∀ type ∈ Codec.h265.unitType? unit,
      type ≤ 47) :
    Transferred (units ++ (calls.flatMap (unitsOf ·.2)).filter isKept)
      (payloads ++ (p.payloadAll calls).1) (p.payloadAll calls).2 := by
  induction calls generalizing units payloads p with
  | nil => simpa [Payloader.payloadAll] using h
  | cons call calls ih =>
    obtain ⟨hlow, hhigh⟩ := hmtu call List.mem_cons_self
    have hcall := h.payload hlow hhigh (htype call List.mem_cons_self)
    have hcalls := ih hcall (fun other hother ↦ hmtu other (List.mem_cons_of_mem call hother))
      fun other hother ↦ htype other (List.mem_cons_of_mem call hother)
    rw [List.flatMap_cons, List.filter_append]
    simpa [Payloader.payloadAll, List.append_assoc] using hcalls

/-- Packetization loses nothing: whatever limits the calls have, a receiver gets every kept unit
octet for octet and in order, up to the last one that is no parameter set. The parameter sets behind
it are what the payloader still holds. -/
theorem receiveAll_payloadAll (calls : List (Nat × Bytes))
    (hmtu : ∀ call ∈ calls, 4 ≤ call.1 ∧ call.1 ≤ 65535)
    (htype : ∀ call ∈ calls, ∀ unit ∈ unitsOf call.2, ∀ type ∈ Codec.h265.unitType? unit,
      type ≤ 47) :
    let sent := Payloader.fresh.payloadAll calls
    let units := (calls.flatMap (unitsOf ·.2)).filter isKept
    Depayloader.fresh.receiveAll sent.1 =
        some (units.rdropWhile isParameterSet, Depayloader.fresh) ∧
      sent.2.held = units.rtakeWhile isParameterSet := by
  have h := Transferred.start.payloadAll hmtu htype
  exact ⟨h.received, h.held⟩

/-- Two calls: parameter sets that wait for a picture of the next call, a delimiter, an aggregation
packet, a fragmented picture and a parameter set that still waits. -/
theorem receiveAll_payloadAll_across_calls :
    let calls : List (Nat × Bytes) :=
      [(20, [0, 0, 1, 70, 1, 80, 0, 0, 0, 1, 64, 1, 12, 0, 0, 1, 66, 1, 1]),
        (15, [0, 0, 1, 38, 1, 2, 3, 4, 5, 6, 7, 8, 9, 10, 11, 12, 13, 14, 15, 16, 0, 0, 1, 68, 1])]
    (∀ call ∈ calls, 4 ≤ call.1 ∧ call.1 ≤ 65535) ∧
      (∀ call ∈ calls, ∀ unit ∈ unitsOf call.2, ∀ type ∈ Codec.h265.unitType? unit,
        type ≤ 47) ∧
      Depayloader.fresh.receiveAll (Payloader.fresh.payloadAll calls).1 =
        some ([[64, 1, 12], [66, 1, 1],
          [38, 1, 2, 3, 4, 5, 6, 7, 8, 9, 10, 11, 12, 13, 14, 15, 16]], .fresh) ∧
      (Payloader.fresh.payloadAll calls).2.held = [[68, 1]] := by
  intro calls
  have hmtu : ∀ call ∈ calls, 4 ≤ call.1 ∧ call.1 ≤ 65535 := by decide
  have htype : ∀ call ∈ calls, ∀ unit ∈ unitsOf call.2, ∀ type ∈ Codec.h265.unitType? unit,
      type ≤ 47 := by decide
  exact ⟨hmtu, htype, receiveAll_payloadAll calls hmtu htype⟩

end LiveCamera.Hevc
