import LiveCamera.Proofs.AnnexB.Scanning
import LiveCamera.Proofs.Hevc.Sizes

/-!
# Packetization with checked operations

`payload?` packetizes with operations that have no result where they cannot be carried out: reading
an octet that is not there, a slice whose ends are out of order, a difference below zero, a quotient
by zero, pieces of no octets.  `payload?_eq` says that it always has a result in the states that
calls lead to, and that it is the one of `payload`; with what the payloads hold this gives
`payload_fits`.
-/

namespace LiveCamera

/-! ## Operations -/

/-- The difference of two lengths. -/
def difference? (a b : Nat) : Option Nat := if b ≤ a then some (a - b) else none

/-- The quotient of two lengths, rounded up. -/
def quotientUp? (a b : Nat) : Option Nat :=
  if b = 0 then none else some (if a % b = 0 then a / b else a / b + 1)

/-- The pieces of `size` elements; the last one may be shorter. -/
def piecesOf {α : Type} (size : Nat) : List α → List (List α)
  | [] => []
  | first :: rest => (first :: rest.take (size - 1)) :: piecesOf size (rest.drop (size - 1))
termination_by l => l.length

def pieces? {α : Type} (size : Nat) (l : List α) : Option (List (List α)) :=
  if size = 0 then none else some (piecesOf size l)

theorem quotientUp?_eq (a : Nat) {b : Nat} (hb : 0 < b) :
    quotientUp? a b = some ((a + b - 1) / b) := by
  have hsplit := Nat.div_add_mod a b
  have hmod := Nat.mod_lt a hb
  rw [quotientUp?, if_neg (by omega), Option.some.injEq]
  symm
  split_ifs with hwhole
  · apply Nat.div_eq_of_lt_le
    · rw [Nat.mul_comm]
      omega
    · rw [Nat.succ_mul, Nat.mul_comm]
      omega
  · apply Nat.div_eq_of_lt_le
    · rw [Nat.succ_mul, Nat.mul_comm]
      omega
    · rw [Nat.succ_mul, Nat.succ_mul, Nat.mul_comm]
      omega

/-- What is left behind the first piece is cut into one piece less. -/
theorem pieceCount_drop (size length : Nat) :
    (length - size + (size + 1) - 1) / (size + 1) = length / (size + 1) := by
  rcases Nat.lt_or_ge length size with hshort | hlong
  · rw [Nat.div_eq_of_lt (by omega), Nat.div_eq_of_lt (by omega)]
  · congr 1
    omega

theorem piecesOf_eq {α : Type} (size : Nat) (l : List α) :
    piecesOf (size + 1) l = stretches (size + 1) ((l.length + (size + 1) - 1) / (size + 1)) l := by
  fun_induction piecesOf (size + 1) l with
  | case1 =>
    rw [List.length_nil, Nat.div_eq_of_lt (by omega)]
    rfl
  | case2 first rest ih =>
    have hcount : ((first :: rest).length + (size + 1) - 1) / (size + 1) =
        rest.length / (size + 1) + 1 := by
      rw [← Nat.add_div_right _ (Nat.succ_pos size), List.length_cons]
      congr 1
      omega
    rw [Nat.add_sub_cancel, List.length_drop, pieceCount_drop] at ih
    rw [Nat.add_sub_cancel, ih, hcount]
    rfl

theorem pieces?_eq {α : Type} {size : Nat} (hsize : 0 < size) (l : List α) :
    pieces? size l = some (stretches size ((l.length + size - 1) / size) l) := by
  obtain ⟨size, rfl⟩ := Nat.exists_eq_add_of_lt hsize
  rw [Nat.zero_add, pieces?, if_neg (Nat.succ_ne_zero size), piecesOf_eq]

theorem mapM_eq_some_map {α β : Type} {f : α → Option β} {g : α → β} {l : List α}
    (h : ∀ a ∈ l, f a = some (g a)) : l.mapM f = some (l.map g) := by
  induction l with
  | nil => rfl
  | cons a l ih =>
    rw [List.mapM_cons, h a List.mem_cons_self,
      ih fun other hother ↦ h other (List.mem_cons_of_mem a hother)]
    rfl

namespace Hevc

/-! ## Packetization -/

def fragment? (mtu : Nat) (unit : Bytes) : Option (List Bytes) := do
  let first ← unit[0]?
  let second ← unit[1]?
  let body ← unit.slice? 2 unit.length
  let room ← difference? mtu 2
  let chunk ← difference? room 1
  let count ← quotientUp? body.length chunk
  let pieces ← pieces? chunk body
  return pieces.zipIdx.map (piecePayload first second count)

def single? (mtu : Nat) (unit : Bytes) : Option (List Bytes) :=
  if unit.length ≤ mtu then some [unit] else fragment? mtu unit

/-- The last nine header bits of a unit. -/
def lastBits? (unit : Bytes) : Option Nat := do
  let first ← unit[0]?
  let second ← unit[1]?
  return (first &&& 1).toNat * 256 + second.toNat

def aggregate? (sets : List Bytes) : Option Bytes := do
  let firsts ← sets.mapM (·[0]?)
  let lasts ← sets.mapM lastBits?
  let forbidden := firsts.foldl (fun bit first ↦ bit ||| (first &&& 0x80)) 0
  let lowest := lasts.min?.getD 1
  return [forbidden ||| 0x60 ||| UInt8.ofNat (lowest / 256), UInt8.ofNat lowest] ++
    sets.flatMap fun set ↦ Bytes.ofLength set.length ++ set

def sendSets? (mtu : Nat) (sets : List Bytes) : Option (List Bytes) :=
  if sets.length < 2 ∨ mtu < aggregateLength sets then do
    let sent ← sets.mapM (single? mtu)
    return sent.flatten
  else do
    let packet ← aggregate? sets
    return [packet]

/-- The payloads for one NAL unit. -/
def pushUnit? (p : Payloader) (mtu : Nat) (unit : Bytes) : Option (List Bytes × Payloader) :=
  if unit.length < 2 then some ([], p)
  else
    match Codec.h265.unitType? unit with
    | none => some ([], p)
    | some type =>
      if type = delimiter ∨ type = filler then some ([], p)
      else if type = vps ∨ type = sps ∨ type = pps then some ([], ⟨p.held ++ [unit]⟩)
      else do
        let sets ← sendSets? mtu p.held
        let sent ← single? mtu unit
        return (sets ++ sent, ⟨[]⟩)

def pushUnits? (p : Payloader) (mtu : Nat) : List Bytes → Option (List Bytes × Payloader)
  | [] => some ([], p)
  | unit :: rest => do
    let sent ← pushUnit? p mtu unit
    let later ← pushUnits? sent.2 mtu rest
    return (sent.1 ++ later.1, later.2)

/-- The payloads for one access unit. -/
def payload? (p : Payloader) (mtu : Nat) (data : Bytes) : Option (List Bytes × Payloader) :=
  if data.isEmpty ∨ mtu ≤ 3 then some ([], p)
  else do
    let slices ← AnnexB.scan? data
    pushUnits? p mtu (slices.map (·.payload))

/-! ## They can always be carried out -/

theorem fragment?_eq {mtu : Nat} (hmtu : 4 ≤ mtu) (first second : UInt8) (body : Bytes) :
    fragment? mtu (first :: second :: body) = some (fragment mtu (first :: second :: body)) := by
  have hbody : Bytes.slice? (first :: second :: body) 2 (first :: second :: body).length =
      some body := by
    have hslice := Bytes.slice?_append [first, second] body []
    rwa [List.append_nil, ← List.length_append] at hslice
  have hroom : difference? mtu 2 = some (mtu - 2) := if_pos (by omega)
  have hchunk : difference? (mtu - 2) 1 = some (mtu - 3) := if_pos (by omega)
  have hcount := quotientUp?_eq body.length (show 0 < mtu - 3 by omega)
  have hpieces := pieces?_eq (show 0 < mtu - 3 by omega) body
  rw [fragment_eq, fragment?, hbody]
  simp only [List.getElem?_cons_zero, List.getElem?_cons_succ, Option.bind_eq_bind,
    Option.bind_some, hroom, hchunk, hcount, hpieces]
  rfl

theorem single?_eq {mtu : Nat} (hmtu : 4 ≤ mtu) {unit : Bytes} (hheader : 2 ≤ unit.length) :
    single? mtu unit = some (single mtu unit) := by
  obtain ⟨first, second, body, rfl⟩ := exists_header_of_two_le_length hheader
  unfold single? single
  split_ifs
  · rfl
  · exact fragment?_eq hmtu first second body

theorem aggregate?_eq {sets : List Bytes} (hheaders : ∀ set ∈ sets, 2 ≤ set.length) :
    aggregate? sets = some (aggregate sets) := by
  have hfirsts : sets.mapM (·[0]?) = some (sets.map (·.headD 0)) := by
    apply mapM_eq_some_map
    intro set hset
    obtain ⟨first, second, body, rfl⟩ := exists_header_of_two_le_length (hheaders set hset)
    rfl
  have hlasts : sets.mapM lastBits? = some (sets.map layerAndTemporal) := by
    apply mapM_eq_some_map
    intro set hset
    obtain ⟨first, second, body, rfl⟩ := exists_header_of_two_le_length (hheaders set hset)
    rfl
  have hforbidden : (fun bit set ↦ bit ||| (List.headD set 0 &&& 0x80)) =
      fun bit set ↦ bit ||| forbiddenBit set := by
    funext bit set
    cases set <;> rfl
  rw [aggregate?, hfirsts, hlasts]
  simp only [Option.bind_eq_bind, Option.bind_some, List.foldl_map, hforbidden]
  rfl

theorem sendSets?_eq {mtu : Nat} (hmtu : 4 ≤ mtu) {sets : List Bytes}
    (hheaders : ∀ set ∈ sets, 2 ≤ set.length) :
    sendSets? mtu sets = some (sendSets mtu sets) := by
  unfold sendSets? sendSets
  split_ifs
  · rw [mapM_eq_some_map fun set hset ↦ single?_eq hmtu (hheaders set hset), List.flatMap_def]
    rfl
  · rw [aggregate?_eq hheaders]
    rfl

namespace Payloader.HoldsSets

variable {p : Payloader}

theorem pushUnit?_eq (h : p.HoldsSets) {mtu : Nat} (hmtu : 4 ≤ mtu) (unit : Bytes) :
    pushUnit? p mtu unit = some (p.pushUnit mtu unit) := by
  rcases unit with _ | ⟨first, _ | ⟨second, body⟩⟩
  · rfl
  · rfl
  · have hsets := sendSets?_eq hmtu h.two_le_length
    have hunit : single? mtu (first :: second :: body) = some (single mtu (first :: second :: body)) :=
      single?_eq hmtu (by simp)
    have htype : Codec.h265.unitType? (first :: second :: body) = some (typeOf first) := rfl
    rw [pushUnit?, if_neg (by simp), htype, Payloader.pushUnit]
    dsimp only
    split_ifs
    · rfl
    · rfl
    · rw [hsets, hunit]
      rfl

theorem pushUnits?_eq (h : p.HoldsSets) {mtu : Nat} (hmtu : 4 ≤ mtu) (units : List Bytes) :
    pushUnits? p mtu units = some (p.pushUnits mtu units) := by
  induction units generalizing p with
  | nil => rfl
  | cons unit units ih =>
    rw [pushUnits?, h.pushUnit?_eq hmtu unit, Option.bind_eq_bind, Option.bind_some,
      ih (h.pushUnit mtu unit)]
    rfl

/-- Packetization with checked operations has a result, the same one. -/
theorem payload?_eq (h : p.HoldsSets) (mtu : Nat) (data : Bytes) :
    payload? p mtu data = some (p.payload mtu data) := by
  unfold payload? Payloader.payload
  by_cases hmtu : mtu ≤ 3
  · rw [if_pos (.inr hmtu), if_pos hmtu]
  · rw [if_neg hmtu]
    cases data with
    | nil => rfl
    | cons octet rest =>
      have hpayloads : ((AnnexB.split (octet :: rest)).map NalUnit.slices).map (·.payload) =
          (AnnexB.split (octet :: rest)).map (·.payload) := by
        rw [List.map_map]
        rfl
      rw [if_neg (by simpa using hmtu), AnnexB.scan?_eq, Option.bind_eq_bind, Option.bind_some,
        hpayloads]
      exact h.pushUnits?_eq (by omega) _

end Payloader.HoldsSets

/-- Every payload fits.  Whatever calls came before, a call can be carried out; it sends nothing if
the limit leaves no room behind the headers of a fragment, and otherwise payloads that are no longer
than the limit and no shorter than a header.  They carry the parameter sets that were held and the
units of the access unit up to the last one that is no parameter set, and each of these that does
not fit comes in fragments. -/
theorem payload_fits (calls : List (Nat × Bytes)) (mtu : Nat) (data : Bytes) :
    let p := (Payloader.fresh.payloadAll calls).2
    let sent := p.payload mtu data
    let units := (p.held ++ (unitsOf data).filter isKept).rdropWhile isParameterSet
    payload? p mtu data = some sent ∧
      (mtu ≤ 3 → sent = ([], p)) ∧
      (3 < mtu → (∀ payload ∈ sent.1, 2 ≤ payload.length ∧ payload.length ≤ mtu) ∧
        Conveys mtu units sent.1 ∧
        ∀ unit ∈ units, mtu < unit.length → ∃ before fragments behind,
          sent.1 = before ++ fragments ++ behind ∧ IsFragmented mtu unit fragments) := by
  intro p sent units
  have hp : p.HoldsSets := Payloader.holdsSets_fresh.payloadAll calls
  refine ⟨hp.payload?_eq mtu data, fun hmtu ↦ if_pos hmtu, fun hmtu ↦ ?_⟩
  have hconveys : Conveys mtu units sent.1 := by
    change Conveys mtu units (p.payload mtu data).1
    rw [Payloader.payload, if_neg (by omega)]
    exact hp.conveys_pushUnits hmtu (unitsOf data)
  have hheaders : ∀ unit ∈ units, 2 ≤ unit.length := by
    intro unit hunit
    have hfront := List.rdropWhile_prefix isParameterSet (p.held ++ (unitsOf data).filter isKept)
    rcases List.mem_append.mp (hfront.mem hunit) with hheld | hkept
    · exact hp.two_le_length unit hheld
    · exact two_le_length_of_isKept (List.mem_filter.mp hkept).2
  exact ⟨hconveys.length_bounds hheaders, hconveys, fun unit hunit ↦ hconveys.exists_fragments hunit⟩

/-- Parameter sets that came under a large limit leave under the smallest one, where every fragment
has one octet of its unit; one limit lower, they stay. -/
theorem payload_fits_smallest_limit :
    let p := (Payloader.fresh.payloadAll [(1200, [0, 0, 1, 64, 1, 12, 0, 0, 1, 66, 1, 1, 7, 9])]).2
    let data : Bytes := [0, 0, 1, 38, 1, 2, 3, 4]
    let sent := p.payload 4 data
    sent = ([[64, 1, 12], [98, 1, 161, 1], [98, 1, 33, 7], [98, 1, 97, 9],
        [98, 1, 147, 2], [98, 1, 19, 3], [98, 1, 83, 4]], .fresh) ∧
      (∀ payload ∈ sent.1, 2 ≤ payload.length ∧ payload.length ≤ 4) ∧
      (∃ before fragments behind, sent.1 = before ++ fragments ++ behind ∧
        IsFragmented 4 [66, 1, 1, 7, 9] fragments) ∧
      p.payload 3 data = ([], p) := by
  intro p data sent
  obtain ⟨-, -, hsent⟩ :=
    payload_fits [(1200, [0, 0, 1, 64, 1, 12, 0, 0, 1, 66, 1, 1, 7, 9])] 4 data
  obtain ⟨-, hnone, -⟩ :=
    payload_fits [(1200, [0, 0, 1, 64, 1, 12, 0, 0, 1, 66, 1, 1, 7, 9])] 3 data
  obtain ⟨hbounds, -, hfragments⟩ := hsent (by decide)
  exact ⟨by decide, hbounds, hfragments [66, 1, 1, 7, 9] (by decide) (by decide),
    hnone (by decide)⟩

end Hevc

end LiveCamera
