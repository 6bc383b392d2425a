import LiveCamera.Hevc.Depayload
import Mathlib.Algebra.Order.BigOperators.Group.List
import Mathlib.Algebra.Order.Group.Nat

/-!
# Reassembly of H.265 payloads

What a receiver makes of the payloads of one unit or of one group of parameter sets.  A unit that
does not fit is cut into at least two pieces, so that no piece carries both the start and the end
bit; `receiveAll_single` says that the unit arrives as it was, whole or in pieces.  The length
fields of an aggregation packet are exact below 65536, and `receive_aggregate` says that its units
arrive in order.
-/

namespace LiveCamera.Hevc

/-- What holds of the octets with the numbers below 256 holds of every octet. -/
theorem forall_octet {p : UInt8 → Prop} (h : ∀ n < 256, p (UInt8.ofNat n)) (octet : UInt8) :
    p octet := by
  have hoctet := h octet.toNat octet.toNat_lt
  rwa [UInt8.ofNat_toNat] at hoctet

/-! ## Fragments -/

/-- The type of a unit as it stands in a fragment header. -/
abbrev typeBits (first : UInt8) : UInt8 := (first >>> 1) &&& 0x3F

/-- The first octet of the payload header of a unit's fragments. -/
abbrev fragmentFirst (first : UInt8) : UInt8 := (first &&& 0x81) ||| 0x62

@[simp]
theorem typeOf_fragmentFirst (first : UInt8) : typeOf (fragmentFirst first) = fragmentType := by
  revert first
  exact forall_octet (by decide +kernel)

/-- A receiver gets the first octet of the unit back from payload header and fragment header. -/
@[simp]
theorem rebuiltHeader_fragmentFirst (first : UInt8) :
    Depayloader.rebuiltHeader (fragmentFirst first) (typeBits first) = first := by
  revert first
  exact forall_octet (by decide +kernel)

@[simp]
theorem fragmentHeader_and_type (first : UInt8) (count index : Nat) :
    fragmentHeader (typeBits first) count index &&& 0x3F = typeBits first := by
  unfold fragmentHeader
  revert first
  split_ifs <;> exact forall_octet (by decide +kernel)

@[simp]
theorem fragmentHeader_starts (first : UInt8) (count index : Nat) :
    (fragmentHeader (typeBits first) count index &&& 0x80 != 0) = decide (index = 0) := by
  unfold fragmentHeader
  revert first
  split_ifs with hstart hend <;> simp only [hstart, decide_true, decide_false] <;>
    exact forall_octet (by decide +kernel)

@[simp]
theorem fragmentHeader_ends (first : UInt8) (count index : Nat) :
    (fragmentHeader (typeBits first) count index &&& 0x40 != 0) = decide (index + 1 = count) := by
  unfold fragmentHeader
  revert first
  split_ifs with hstart hend hend <;> simp only [hend, decide_true, decide_false] <;>
    exact forall_octet (by decide +kernel)

/-- The payload that carries one piece of a unit. -/
def piecePayload (first second : UInt8) (count : Nat) (piece : Bytes × Nat) : Bytes :=
  [fragmentFirst first, second, fragmentHeader (typeBits first) count piece.2] ++ piece.1

theorem fragment_eq (mtu : Nat) (first second : UInt8) (body : Bytes) :
    fragment mtu (first :: second :: body) =
      let count := (body.length + (mtu - 3) - 1) / (mtu - 3)
      (stretches (mtu - 3) count body).zipIdx.map (piecePayload first second count) := rfl

namespace Depayloader

theorem receive_piecePayload (d : Depayloader) (first second : UInt8) (count : Nat)
    (piece : Bytes × Nat) :
    d.receive (piecePayload first second count piece) =
      d.receiveFragment (fragmentFirst first) second
        (fragmentHeader (typeBits first) count piece.2) piece.1 := by
  simp [piecePayload, receive]

/-- The first of several pieces starts a unit. -/
theorem receive_first (first second : UInt8) {count : Nat} (hcount : 1 < count) (piece : Bytes) :
    fresh.receive (piecePayload first second count (piece, 0)) =
      some ([], ⟨some ⟨first, second, piece⟩⟩) := by
  have hlast : ¬ 0 + 1 = count := by omega
  rw [receive_piecePayload]
  simp only [receiveFragment, fresh, fragmentHeader_starts, fragmentHeader_ends,
    fragmentHeader_and_type, rebuiltHeader_fragmentFirst, hlast, decide_true, decide_false,
    Bool.false_eq_true, if_false]

/-- A later piece is appended; the last one completes the unit. -/
theorem receive_later (first second : UInt8) (count index : Nat) (hindex : index ≠ 0)
    (body piece : Bytes) :
    (⟨some ⟨first, second, body⟩⟩ : Depayloader).receive
        (piecePayload first second count (piece, index)) =
      if index + 1 = count then some ([first :: second :: (body ++ piece)], fresh)
      else some ([], ⟨some ⟨first, second, body ++ piece⟩⟩) := by
  rw [receive_piecePayload]
  simp only [receiveFragment, fragmentHeader_starts, fragmentHeader_ends,
    fragmentHeader_and_type, rebuiltHeader_fragmentFirst, hindex, decide_false, and_self, if_true,
    decide_eq_true_eq]

theorem receiveAll_cons {d now later : Depayloader} {payload : Bytes}
    {rest units others : List Bytes}
    (hnow : d.receive payload = some (units, now))
    (hlater : now.receiveAll rest = some (others, later)) :
    d.receiveAll (payload :: rest) = some (units ++ others, later) := by
  simp [receiveAll, hnow, hlater]

/-- What arrives in two parts is received part by part. -/
theorem receiveAll_append {d now later : Depayloader} {payloads rest units others : List Bytes}
    (hnow : d.receiveAll payloads = some (units, now))
    (hlater : now.receiveAll rest = some (others, later)) :
    d.receiveAll (payloads ++ rest) = some (units ++ others, later) := by
  induction payloads generalizing d units with
  | nil =>
    obtain ⟨rfl, rfl⟩ : [] = units ∧ d = now := by simpa [receiveAll] using hnow
    exact hlater
  | cons payload payloads ih =>
    cases hfirst : d.receive payload with
    | none => simp [receiveAll, hfirst] at hnow
    | some first =>
      cases hmore : first.2.receiveAll payloads with
      | none => simp [receiveAll, hfirst, hmore] at hnow
      | some more =>
        obtain ⟨rfl, rfl⟩ : first.1 ++ more.1 = units ∧ more.2 = now := by
          simpa [receiveAll, hfirst, hmore] using hnow
        rw [List.cons_append, List.append_assoc]
        exact receiveAll_cons hfirst (ih hmore)

/-- The pieces that are still to come complete a unit of which some pieces have arrived. -/
theorem receiveAll_later (first second : UInt8) (count : Nat) (pieces : List Bytes) (index : Nat)
    (body : Bytes) (hpieces : pieces ≠ []) (hindex : index ≠ 0)
    (hcount : index + pieces.length = count) :
    (⟨some ⟨first, second, body⟩⟩ : Depayloader).receiveAll
        ((pieces.zipIdx index).map (piecePayload first second count)) =
      some ([first :: second :: (body ++ pieces.flatten)], fresh) := by
  induction pieces generalizing index body with
  | nil => exact absurd rfl hpieces
  | cons piece pieces ih =>
    have hreceive := receive_later first second count index hindex body piece
    rw [List.zipIdx_cons, List.map_cons]
    rw [List.length_cons] at hcount
    -- The last piece completes the unit, any other one leaves it open.
    by_cases hlast : pieces = []
    · subst hlast
      rw [if_pos (by simpa using hcount)] at hreceive
      have hdone : fresh.receiveAll [] = some ([], fresh) := rfl
      simpa using receiveAll_cons hreceive hdone
    · have hmore : 0 < pieces.length := List.length_pos_iff.mpr hlast
      rw [if_neg (by omega)] at hreceive
      have hrest := ih (index + 1) (body ++ piece) hlast (by omega) (by omega)
      simpa using receiveAll_cons hreceive hrest

/-- A unit arrives whole from two or more pieces. -/
theorem receiveAll_pieces (first second : UInt8) (pieces : List Bytes)
    (hpieces : 1 < pieces.length) :
    fresh.receiveAll (pieces.zipIdx.map (piecePayload first second pieces.length)) =
      some ([first :: second :: pieces.flatten], fresh) := by
  cases pieces with
  | nil => simp at hpieces
  | cons piece pieces =>
    rw [List.length_cons] at hpieces
    have hmore : pieces ≠ [] := by
      rintro rfl
      simp at hpieces
    have hrest := receiveAll_later first second (pieces.length + 1) pieces 1 piece hmore
      Nat.one_ne_zero (by omega)
    exact receiveAll_cons (receive_first first second hpieces piece) hrest

end Depayloader

/-- A unit that does not fit is cut into at least two pieces. -/
theorem one_lt_pieceCount {mtu length : Nat} (hmtu : 4 ≤ mtu) (hlength : mtu < length + 2) :
    1 < (length + (mtu - 3) - 1) / (mtu - 3) := by
  rw [Nat.lt_iff_add_one_le, Nat.le_div_iff_mul_le (by omega)]
  omega

/-- The pieces together are as long as what is cut. -/
theorem length_le_pieces {mtu length : Nat} (hmtu : 4 ≤ mtu) :
    length ≤ (mtu - 3) * ((length + (mtu - 3) - 1) / (mtu - 3)) := by
  have hdiv := Nat.div_add_mod (length + (mtu - 3) - 1) (mtu - 3)
  have hmod := Nat.mod_lt (length + (mtu - 3) - 1) (show 0 < mtu - 3 by omega)
  omega

/-- The fragments of a unit that does not fit are received as that unit. -/
theorem receiveAll_fragment {mtu : Nat} (hmtu : 4 ≤ mtu) (first second : UInt8) (body : Bytes)
    (hlong : mtu < body.length + 2) :
    Depayloader.fresh.receiveAll (fragment mtu (first :: second :: body)) =
      some ([first :: second :: body], .fresh) := by
  have hpieces := Depayloader.receiveAll_pieces first second
    (stretches (mtu - 3) ((body.length + (mtu - 3) - 1) / (mtu - 3)) body)
    (by simpa using one_lt_pieceCount hmtu hlong)
  rw [length_stretches, flatten_stretches,
    List.take_of_length_le (length_le_pieces hmtu)] at hpieces
  rw [fragment_eq]
  exact hpieces

/-- A payload of a type below those of aggregation packets and fragments is a unit. -/
theorem receive_single {first second : UInt8} {rest : Bytes} (htype : typeOf first ≤ 47) :
    Depayloader.fresh.receive (first :: second :: rest) =
      some ([first :: second :: rest], .fresh) := by
  have hfragment : typeOf first ≠ fragmentType := by unfold fragmentType; omega
  have haggregation : typeOf first ≠ aggregationType := by unfold aggregationType; omega
  simp [Depayloader.receive, Depayloader.fresh, hfragment, haggregation]

/-- A unit that is sent by itself, whole or in pieces, is received as it is. -/
theorem receiveAll_single {mtu : Nat} (hmtu : 4 ≤ mtu) {first : UInt8} (second : UInt8)
    (body : Bytes) (htype : typeOf first ≤ 47) :
    Depayloader.fresh.receiveAll (single mtu (first :: second :: body)) =
      some ([first :: second :: body], .fresh) := by
  unfold single
  split_ifs with hfits
  · exact Depayloader.receiveAll_cons (receive_single htype) rfl
  · exact receiveAll_fragment hmtu first second body (Nat.lt_of_not_le hfits)

/-! ## Aggregation -/

theorem toNat_ofLength {n : Nat} (hn : n < 65536) :
    (UInt8.ofNat (n / 256)).toNat * 256 + (UInt8.ofNat n).toNat = n := by
  simp only [UInt8.toNat_ofNat']
  omega

/-- A unit behind its length is read back, whatever follows it. -/
theorem disaggregate_cons (limit : Nat) {set : Bytes} (hset : set.length < 65536) (rest : Bytes) :
    disaggregate (limit + 1) (Bytes.ofLength set.length ++ set ++ rest) =
      (disaggregate limit rest).map (set :: ·) := by
  simp only [Bytes.ofLength, List.cons_append, List.nil_append, disaggregate, toNat_ofLength hset]
  rw [if_pos (by simp), List.drop_left, List.take_left]

theorem disaggregate_flatMap {limit : Nat} {sets : List Bytes} (hlimit : sets.length ≤ limit)
    (hsets : ∀ set ∈ sets, set.length < 65536) :
    disaggregate limit (sets.flatMap fun set ↦ Bytes.ofLength set.length ++ set) = some sets := by
  induction sets generalizing limit with
  | nil => simp [disaggregate]
  | cons set sets ih =>
    rw [List.length_cons] at hlimit
    obtain ⟨limit, rfl⟩ : ∃ rest, limit = rest + 1 := ⟨limit - 1, by omega⟩
    rw [List.flatMap_cons, disaggregate_cons limit (hsets set List.mem_cons_self),
      ih (by omega) fun other hother ↦ hsets other (List.mem_cons_of_mem set hother)]
    rfl

theorem length_le_aggregateLength {sets : List Bytes} {set : Bytes} (hset : set ∈ sets) :
    set.length + 4 ≤ aggregateLength sets := by
  have hle : 2 + set.length ≤ (sets.map (2 + ·.length)).sum :=
    List.le_sum_of_mem (List.mem_map.mpr ⟨set, hset, rfl⟩)
  rw [aggregateLength, ← List.sum_eq_foldr]
  omega

theorem layerAndTemporal_lt (set : Bytes) : layerAndTemporal set < 512 := by
  match set with
  | [] => decide
  | [_] => exact (by decide : 1 < 512)
  | first :: second :: _ =>
    have hfirst : (first &&& 1).toNat ≤ 1 := by
      rw [UInt8.toNat_and]
      exact Nat.and_le_right
    have hsecond := second.toNat_lt
    simp only [layerAndTemporal]
    omega

theorem forbiddenBit_eq (set : Bytes) : forbiddenBit set = 0 ∨ forbiddenBit set = 0x80 := by
  match set with
  | [] => exact .inl rfl
  | first :: _ =>
    change first &&& 0x80 = 0 ∨ first &&& 0x80 = 0x80
    revert first
    exact forall_octet (by decide +kernel)

theorem foldl_forbiddenBit (sets : List Bytes) {bit : UInt8} (hbit : bit = 0 ∨ bit = 0x80) :
    sets.foldl (fun bit set ↦ bit ||| forbiddenBit set) bit = 0 ∨
      sets.foldl (fun bit set ↦ bit ||| forbiddenBit set) bit = 0x80 := by
  induction sets generalizing bit with
  | nil => exact hbit
  | cons set sets ih =>
    apply ih
    rcases hbit with rfl | rfl <;> rcases forbiddenBit_eq set with hset | hset <;> simp [hset]

/-- The bit of a packet that stands for its units: one of them has it. -/
def anyForbidden (sets : List Bytes) : UInt8 :=
  sets.foldl (fun bit set ↦ bit ||| forbiddenBit set) 0

/-- The last nine header bits of a packet. -/
def lowestBits (sets : List Bytes) : Nat := ((sets.map layerAndTemporal).min?).getD 1

theorem anyForbidden_eq (sets : List Bytes) : anyForbidden sets = 0 ∨ anyForbidden sets = 0x80 :=
  foldl_forbiddenBit sets (.inl rfl)

theorem lowestBits_lt (sets : List Bytes) : lowestBits sets < 512 := by
  unfold lowestBits
  cases hmin : (sets.map layerAndTemporal).min? with
  | none => exact (by decide : 1 < 512)
  | some lowest =>
    obtain ⟨set, -, rfl⟩ := List.mem_map.mp (List.min?_mem hmin)
    exact layerAndTemporal_lt set

theorem aggregate_eq (sets : List Bytes) :
    aggregate sets =
      (anyForbidden sets ||| 0x60 ||| UInt8.ofNat (lowestBits sets / 256)) ::
        UInt8.ofNat (lowestBits sets) ::
          sets.flatMap fun set ↦ Bytes.ofLength set.length ++ set := rfl

theorem typeOf_aggregate_first {forbidden : UInt8} {lowest : Nat}
    (hforbidden : forbidden = 0 ∨ forbidden = 0x80) (hlowest : lowest < 512) :
    typeOf (forbidden ||| 0x60 ||| UInt8.ofNat (lowest / 256)) = aggregationType := by
  have hlayer : lowest / 256 = 0 ∨ lowest / 256 = 1 := by omega
  rcases hforbidden with rfl | rfl <;> rcases hlayer with hlayer | hlayer <;> rw [hlayer] <;> rfl

theorem receive_aggregation {first : UInt8} (second : UInt8) {rest : Bytes} {units : List Bytes}
    (htype : typeOf first = aggregationType) (hcount : 2 ≤ units.length)
    (hunits : disaggregate rest.length rest = some units) :
    Depayloader.fresh.receive (first :: second :: rest) = some (units, .fresh) := by
  match units, hcount with
  | one :: other :: units, _ =>
    simp [Depayloader.receive, Depayloader.fresh, htype, aggregationType, fragmentType, hunits]

/-- An aggregation packet is received as the units that it was made of. -/
theorem receive_aggregate {sets : List Bytes} (hcount : 2 ≤ sets.length)
    (hsets : ∀ set ∈ sets, set.length < 65536) :
    Depayloader.fresh.receive (aggregate sets) = some (sets, .fresh) := by
  have hlength : sets.length ≤
      (sets.flatMap fun set ↦ Bytes.ofLength set.length ++ set).length := by
    rw [List.length_flatMap]
    have hone : ∀ length ∈ sets.map fun set ↦ (Bytes.ofLength set.length ++ set).length,
        1 ≤ length := by
      simp only [List.mem_map, List.length_append, Bytes.length_ofLength]
      rintro _ ⟨set, -, rfl⟩
      omega
    simpa using List.length_le_sum_of_one_le _ hone
  have htype := typeOf_aggregate_first (anyForbidden_eq sets) (lowestBits_lt sets)
  rw [aggregate_eq]
  exact receive_aggregation _ htype hcount (disaggregate_flatMap hlength hsets)

end LiveCamera.Hevc
