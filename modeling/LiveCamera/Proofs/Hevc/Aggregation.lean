import LiveCamera.Proofs.Hevc.Lossless
import Mathlib.Order.Bounds.Basic

/-!
# The header of an aggregation packet

```text
+---------------+---------------+
|F|   Type    |  LayerId  | TID |
+---------------+---------------+
```

A packet of several parameter sets takes the last nine bits of its header, layer identifier and
temporal identifier, from one of them: from one with the lowest nine bits.  The layer identifier
stands in front, so that it is the lowest of all sets; the temporal identifier is the lowest of the
sets on that layer only.
-/

namespace LiveCamera.Hevc

/-! ## Header fields -/

/-- Whether a unit or payload has the forbidden bit. -/
def isForbidden (unit : Bytes) : Bool := forbiddenBit unit != 0

/-- The six bits of the layer identifier: the last one of the first octet, and the first five of
the second. -/
def layerId : Bytes → Nat
  | first :: second :: _ => (first &&& 1).toNat * 32 + (second >>> 3).toNat
  | _ => 0

/-- The three bits of the temporal identifier, which a unit has one greater than its temporal
layer. -/
def temporalId : Bytes → Nat
  | _ :: second :: _ => (second &&& 7).toNat
  | _ => 1

theorem temporalId_lt (unit : Bytes) : temporalId unit < 8 := by
  match unit with
  | [] => decide
  | [_] => exact (by decide : 1 < 8)
  | _ :: second :: _ =>
    change (second &&& 7).toNat < 8
    revert second
    exact forall_octet (by decide +kernel)

/-- The last nine header bits are the layer identifier followed by the temporal identifier. -/
theorem layerAndTemporal_eq (unit : Bytes) :
    layerAndTemporal unit = layerId unit * 8 + temporalId unit := by
  match unit with
  | [] => rfl
  | [_] => rfl
  | first :: second :: _ =>
    have hsecond : second.toNat = (second >>> 3).toNat * 8 + (second &&& 7).toNat := by
      revert second
      exact forall_octet (by decide +kernel)
    simp only [layerAndTemporal, layerId, temporalId]
    omega

/-! ## The header of a packet -/

/-- The first octet of a packet keeps forbidden bit and layer bit apart. -/
theorem aggregate_first_and {forbidden : UInt8} {lowest : Nat}
    (hforbidden : forbidden = 0 ∨ forbidden = 0x80) (hlowest : lowest < 512) :
    (forbidden ||| 0x60 ||| UInt8.ofNat (lowest / 256)) &&& 0x80 = forbidden ∧
      ((forbidden ||| 0x60 ||| UInt8.ofNat (lowest / 256)) &&& 1).toNat = lowest / 256 := by
  have hlayer : lowest / 256 = 0 ∨ lowest / 256 = 1 := by omega
  rcases hforbidden with rfl | rfl <;> rcases hlayer with hlayer | hlayer <;> rw [hlayer] <;>
    exact ⟨rfl, rfl⟩

theorem unitType?_aggregate (sets : List Bytes) :
    Codec.h265.unitType? (aggregate sets) = some aggregationType := by
  rw [aggregate_eq]
  exact congrArg some (typeOf_aggregate_first (anyForbidden_eq sets) (lowestBits_lt sets))

theorem foldl_forbiddenBit_bne_zero (sets : List Bytes) (bit : UInt8) :
    (sets.foldl (fun bit set ↦ bit ||| forbiddenBit set) bit != 0) =
      (bit != 0 || sets.any isForbidden) := by
  induction sets generalizing bit with
  | nil => simp
  | cons set sets ih =>
    have hbit : (bit ||| forbiddenBit set != 0) = (bit != 0 || isForbidden set) := by
      rw [isForbidden, Bool.eq_iff_iff]
      simp [UInt8.or_eq_zero_iff, imp_iff_not_or]
    rw [List.foldl_cons, ih, hbit, List.any_cons, Bool.or_assoc]

/-- A packet has the forbidden bit if one of its units has it. -/
theorem isForbidden_aggregate (sets : List Bytes) :
    isForbidden (aggregate sets) = sets.any isForbidden := by
  have hfirst := (aggregate_first_and (anyForbidden_eq sets) (lowestBits_lt sets)).1
  have hany := foldl_forbiddenBit_bne_zero sets 0
  rw [aggregate_eq, isForbidden, forbiddenBit, hfirst, anyForbidden, hany]
  rfl

theorem layerAndTemporal_aggregate (sets : List Bytes) :
    layerAndTemporal (aggregate sets) = lowestBits sets := by
  have hlowest := lowestBits_lt sets
  have hfirst := (aggregate_first_and (anyForbidden_eq sets) hlowest).2
  rw [aggregate_eq, layerAndTemporal, hfirst, UInt8.toNat_ofNat']
  omega

/-- A packet has layer and temporal identifier of one of its units, whose nine bits are the
lowest. -/
theorem exists_lowest {sets : List Bytes} (hsets : sets ≠ []) :
    ∃ set ∈ sets, layerId (aggregate sets) = layerId set ∧
      temporalId (aggregate sets) = temporalId set ∧
      ∀ other ∈ sets, layerAndTemporal set ≤ layerAndTemporal other := by
  have hbits := layerAndTemporal_aggregate sets
  obtain ⟨lowest, hlowest⟩ : ∃ lowest, (sets.map layerAndTemporal).min? = some lowest := by
    rw [← Option.isSome_iff_exists, List.isSome_min?_iff]
    simpa using hsets
  obtain ⟨hmem, hleast⟩ := List.min?_eq_some_iff.mp hlowest
  obtain ⟨set, hset, rfl⟩ := List.mem_map.mp hmem
  rw [lowestBits, hlowest, Option.getD_some, layerAndTemporal_eq, layerAndTemporal_eq] at hbits
  have hpacket := temporalId_lt (aggregate sets)
  have hunit := temporalId_lt set
  refine ⟨set, hset, by omega, by omega, fun other hother ↦ ?_⟩
  exact hleast _ (List.mem_map_of_mem hother)

/-- What the header of a packet says.  It has the type of aggregation packets, the forbidden bit if
one of the sets has it, and their lowest layer identifier.  Its temporal identifier is the lowest of
those with that layer identifier, and so the lowest of all exactly if one of these has the lowest of
all. -/
theorem header_of_packet {mtu : Nat} {sets : List Bytes} (hseveral : 2 ≤ sets.length)
    (hfits : aggregateLength sets ≤ mtu) :
    ∃ packet, sendSets mtu sets = [packet] ∧
      Codec.h265.unitType? packet = some 48 ∧
      isForbidden packet = sets.any isForbidden ∧
      IsLeast (layerId '' {set | set ∈ sets}) (layerId packet) ∧
      IsLeast (temporalId '' {set | set ∈ sets ∧ layerId set = layerId packet})
        (temporalId packet) ∧
      (IsLeast (temporalId '' {set | set ∈ sets}) (temporalId packet) ↔
        ∃ set ∈ sets, layerId set = layerId packet ∧
          ∀ other ∈ sets, temporalId set ≤ temporalId other) := by
  have hsets : sets ≠ [] := by
    rintro rfl
    simp at hseveral
  obtain ⟨lowest, hmem, hlayer, htemporal, hlowest⟩ := exists_lowest hsets
  simp only [layerAndTemporal_eq] at hlowest
  have hleast : ∀ set ∈ sets, layerId set = layerId lowest →
      temporalId lowest ≤ temporalId set := by
    intro set hset hsame
    have hbits := hlowest set hset
    omega
  refine ⟨aggregate sets, ?_, unitType?_aggregate sets, isForbidden_aggregate sets, ?_, ?_, ?_⟩
  · rw [sendSets, if_neg (by omega)]
  · refine ⟨⟨lowest, hmem, hlayer.symm⟩, ?_⟩
    rintro _ ⟨set, hset, rfl⟩
    have hbits := hlowest set hset
    have hunit := temporalId_lt set
    omega
  · refine ⟨⟨lowest, ⟨hmem, hlayer.symm⟩, htemporal.symm⟩, ?_⟩
    rintro _ ⟨set, ⟨hset, hsame⟩, rfl⟩
    rw [htemporal]
    exact hleast set hset (hsame.trans hlayer)
  · rw [htemporal, hlayer]
    constructor
    · intro hall
      exact ⟨lowest, hmem, rfl, fun other hother ↦ hall.2 ⟨other, hother, rfl⟩⟩
    · rintro ⟨set, hset, hsame, hbelow⟩
      refine ⟨⟨lowest, hmem, rfl⟩, ?_⟩
      rintro _ ⟨other, hother, rfl⟩
      exact (hleast set hset hsame).trans (hbelow other hother)

/-- A set with the forbidden bit, one on the layer 32 and one that alone has the lowest temporal
identifier, on the layer 1: the packet has the forbidden bit, the layer 0 and the temporal
identifier of the one set there. -/
theorem header_of_packet_three_layers :
    let sets : List Bytes := [[64, 9, 12], [194, 2, 7], [69, 3, 9]]
    ∃ packet, sendSets 1200 sets = [packet] ∧ packet.take 2 = [224, 2] ∧
      Codec.h265.unitType? packet = some 48 ∧
      isForbidden packet = true ∧
      IsLeast (layerId '' {set | set ∈ sets}) (layerId packet) ∧
      ¬ IsLeast (temporalId '' {set | set ∈ sets}) (temporalId packet) := by
  intro sets
  obtain ⟨packet, hsent, htype, hforbidden, hlayer, -, htemporal⟩ :=
    @header_of_packet 1200 sets (by decide) (by decide)
  obtain rfl : aggregate sets = packet := by simpa [sendSets, sets, aggregateLength] using hsent
  have hnone : ¬ ∃ set ∈ sets, layerId set = layerId (aggregate sets) ∧
      ∀ other ∈ sets, temporalId set ≤ temporalId other := by
    decide
  exact ⟨_, hsent, by decide, htype, hforbidden, hlayer, fun hleast ↦ hnone (htemporal.mp hleast)⟩

/-- A sequence parameter set with layer and temporal identifier 1, then a picture parameter set with
layer 0 and temporal identifier 2: the packet has the temporal identifier 2. -/
theorem not_always_lowest :
    ¬ ∀ (calls : List (Nat × Bytes)) (mtu : Nat),
      let sets := (Payloader.fresh.payloadAll calls).2.held
      2 ≤ sets.length → aggregateLength sets ≤ mtu →
        ∃ packet, sendSets mtu sets = [packet] ∧
          Codec.h265.unitType? packet = some 48 ∧
          isForbidden packet = sets.any isForbidden ∧
          IsLeast (layerId '' {set | set ∈ sets}) (layerId packet) ∧
          IsLeast (temporalId '' {set | set ∈ sets}) (temporalId packet) := by
  intro h
  have hheld : (Payloader.fresh.payloadAll
      [(1200, [0, 0, 1, 66, 9, 96, 0, 0, 1, 68, 2, 193])]).2.held =
      [[66, 9, 96], [68, 2, 193]] := by
    decide
  have hclaim := h [(1200, [0, 0, 1, 66, 9, 96, 0, 0, 1, 68, 2, 193])] 1200
  simp only [hheld] at hclaim
  obtain ⟨packet, hsent, -, -, -, -, hleast⟩ := hclaim (by decide) (by decide)
  obtain rfl : aggregate [[66, 9, 96], [68, 2, 193]] = packet := List.cons.inj hsent |>.1
  have htemporal : 2 ≤ 1 := hleast ⟨[66, 9, 96], List.mem_cons_self, rfl⟩
  omega

end LiveCamera.Hevc
