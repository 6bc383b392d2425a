import LiveCamera.Proofs.AnnexB.Scanning
import LiveCamera.Replay

/-!
# What a recording plays

A recorded stream is split twice: once when it is read, to find its access units, and again by the
payloader, which gets the units of one access unit joined together.  Both find the same NAL units
(`split_concat`), because a unit that keeps its borders (`NalUnit.WellFramed`) does so wherever it is
put.  `AccessUnit.Grouped` says which NAL units make an access unit, and `Replay.Plays` what a
recording has ready after any number of access units were taken: the next ones of its endless
repetition.
-/

namespace LiveCamera

namespace AnnexB

/-! ## Units found in a stream -/

/-- A unit without its start code. -/
def withoutCode (unit : Bytes) : Bytes :=
  if 0 :: startCode <+: unit then unit.drop 4
  else if startCode <+: unit then unit.drop 3
  else unit

theorem withoutCode_framed {u : NalUnit} (h : u.codeLength = 3 ∨ u.codeLength = 4) :
    withoutCode u.framed = u.payload := by
  rcases h with hcode | hcode <;> simp [withoutCode, NalUnit.framed, startCode, hcode]

/-- Either the stream has no start code, or every unit stands behind one and contains none. -/
theorem split_cases (data : Bytes) :
    split data = [] ∨ split data = [⟨0, 0, data⟩] ∨
      ∀ u ∈ split data, (u.codeLength = 3 ∨ u.codeLength = 4) ∧ u.payload ≠ [] ∧
        CodeFree u.payload := by
  rcases codeFree_or_exists_dissected data with ⟨-, -, hsplit⟩ | ⟨lead, units, -, hdata, -, hsplit⟩
  · rw [hsplit]
    split_ifs
    · exact .inl rfl
    · exact .inr (.inl rfl)
  · refine .inr (.inr fun u hu ↦ ?_)
    rw [hsplit] at hu
    obtain ⟨hmem, hpayload⟩ := List.mem_filter.mp hu
    have hlocated := hdata.located u hmem
    exact ⟨hlocated.code, by simpa using hpayload, hlocated.codeFree⟩

end AnnexB

/-! ## Access units -/

namespace AccessUnit

open NalUnit

/-- The NAL units of an access unit, without start codes. -/
def nalUnits (a : AccessUnit) : List Bytes := a.units.map AnnexB.withoutCode

/-- The access unit of some NAL units. -/
def ofNalUnits (units : List NalUnit) : AccessUnit := ⟨units.map framed⟩

/-- The NAL units of a stream in groups: each group ends in its only picture, and what is left out
stands behind the last group and holds no picture. -/
structure Grouped (codec : Codec) (units : List NalUnit) (groups : List (List NalUnit)) : Prop where
  closed : ∀ group ∈ groups, ∃ before picture, group = before ++ [picture] ∧
    codec.isPicture picture.payload = true ∧
    ∀ unit ∈ before, codec.isPicture unit.payload = false
  whole : ∃ behind, units = groups.flatten ++ behind ∧
    ∀ unit ∈ behind, codec.isPicture unit.payload = false

theorem exists_grouped_from {codec : Codec} {since : List NalUnit} (units : List NalUnit)
    (hsince : ∀ unit ∈ since, codec.isPicture unit.payload = false) :
    ∃ groups, groupFrom codec (since.map framed).reverse units = groups.map ofNalUnits ∧
      Grouped codec (since ++ units) groups := by
  induction units generalizing since with
  | nil => exact ⟨[], rfl, by simp, since, by simp, hsince⟩
  | cons unit rest ih =>
    rw [groupFrom]
    split_ifs with hpicture
    · -- The picture closes a group, and nothing stands in front of the next one.
      have hnone : ∀ unit ∈ ([] : List NalUnit), codec.isPicture unit.payload = false := by simp
      obtain ⟨groups, hgroups, hclosed, behind, hwhole, hbehind⟩ := ih hnone
      refine ⟨(since ++ [unit]) :: groups, ?_, ?_, behind, ?_, hbehind⟩
      · change _ :: groupFrom codec (([] : List NalUnit).map framed).reverse rest = _
        rw [hgroups, List.map_cons]
        simp [ofNalUnits]
      · exact List.forall_mem_cons.mpr ⟨⟨since, unit, rfl, hpicture, hsince⟩, hclosed⟩
      · rw [List.nil_append] at hwhole
        simp [hwhole]
    · have hmore : ∀ other ∈ since ++ [unit], codec.isPicture other.payload = false := by
        rw [List.forall_mem_append, List.forall_mem_singleton]
        exact ⟨hsince, by simpa using hpicture⟩
      simpa using ih hmore

/-- Every picture of a stream closes an access unit. -/
theorem exists_grouped (codec : Codec) (units : List NalUnit) :
    ∃ groups, group codec units = groups.map ofNalUnits ∧ Grouped codec units groups := by
  have hnone : ∀ unit ∈ ([] : List NalUnit), codec.isPicture unit.payload = false := by simp
  exact exists_grouped_from units hnone

theorem group_eq_nil_iff {codec : Codec} {units : List NalUnit} :
    group codec units = [] ↔ ∀ unit ∈ units, codec.isPicture unit.payload = false := by
  obtain ⟨groups, hgroups, hclosed, behind, hwhole, hbehind⟩ := exists_grouped codec units
  rw [hgroups, List.map_eq_nil_iff]
  constructor
  · rintro rfl
    rw [hwhole]
    exact hbehind
  · intro hnone
    rw [List.eq_nil_iff_forall_not_mem]
    intro members hmembers
    obtain ⟨before, picture, rfl, hpicture, -⟩ := hclosed members hmembers
    have hmem : picture ∈ units := by
      rw [hwhole]
      exact List.mem_append_left _ (List.mem_flatten_of_mem hmembers (by simp))
    rw [hnone picture hmem] at hpicture
    exact absurd hpicture Bool.false_ne_true

/-- An access unit is a stretch of the stream that ends in a picture. -/
theorem exists_of_mem_group {codec : Codec} {units : List NalUnit} {a : AccessUnit}
    (h : a ∈ group codec units) :
    ∃ before picture, a.units = (before ++ [picture]).map framed ∧
      codec.isPicture picture.payload = true ∧ before ++ [picture] <:+: units := by
  obtain ⟨groups, hgroups, hclosed, behind, hwhole, -⟩ := exists_grouped codec units
  rw [hgroups] at h
  obtain ⟨members, hmembers, rfl⟩ := List.mem_map.mp h
  obtain ⟨before, picture, rfl, hpicture, -⟩ := hclosed members hmembers
  have hstretch := List.infix_of_mem_flatten hmembers
  refine ⟨before, picture, rfl, hpicture, hstretch.trans ?_⟩
  exact ⟨[], behind, by rw [List.nil_append, hwhole]⟩

/-- A stream without start codes is one unit. -/
theorem count_of_mem_group_singleton {codec : Codec} {u : NalUnit} {a : AccessUnit}
    (h : a ∈ group codec [u]) : a.count = 1 := by
  obtain ⟨before, picture, hunits, -, hinfix⟩ := exists_of_mem_group h
  have hlength := hinfix.length_le
  rw [count, hunits, List.length_map]
  simp only [List.length_append, List.length_cons, List.length_nil] at hlength ⊢
  omega

/-- Joined and split again, units that keep their borders are the same NAL units as before. -/
theorem split_concat {a : AccessUnit} {us : List NalUnit} (hunits : a.units = us.map framed)
    (hframed : ∀ u ∈ us, u.WellFramed) :
    (AnnexB.split a.concat).map (·.payload) = us.map (·.payload) ∧
      a.nalUnits = us.map (·.payload) := by
  have hconcat : a.concat = [] ++ us.flatMap framed := by
    rw [concat, hunits, List.flatMap_def, List.nil_append]
  have hfree : AnnexB.CodeFree [] := AnnexB.codeFree_of_length_lt (by simp)
  constructor
  · rw [hconcat, AnnexB.split_framed hfree (by simp) (fun _ ↦ rfl) hframed, map_payload_placed]
  · rw [nalUnits, hunits, List.map_map]
    apply List.map_congr_left
    intro u hu
    exact AnnexB.withoutCode_framed (hframed u hu).code

end AccessUnit

/-! ## Playing in a loop -/

namespace Replay

/-- The access unit with the number `k` of the endless repetition. -/
def cyclic (r : Replay) (k : Nat) : AccessUnit :=
  r.recorded.get ⟨k % r.length, Nat.mod_lt _ (List.length_pos_iff.mpr r.recorded_ne_nil)⟩

theorem cyclic_mem (r : Replay) (k : Nat) : r.cyclic k ∈ r.recorded := List.get_mem _ _

theorem recorded_of_ofStream {r : Replay} {codec : Codec} {stream : Bytes}
    (h : ofStream codec stream = .ok r) :
    r.recorded = AccessUnit.group codec (AnnexB.split stream) ∧ r.next = 0 ∧ r.ready = [] := by
  unfold ofStream at h
  dsimp only at h
  split_ifs at h
  obtain rfl := Except.ok.inj h
  exact ⟨rfl, rfl, rfl⟩

/-- What is left of the recording `start` after `popped` access units were taken. -/
structure Plays (start : Replay) (popped : Nat) (r : Replay) : Prop where
  recorded : r.recorded = start.recorded
  ready : r.ready = (List.range' popped r.ready.length).map start.cyclic
  next : r.next = (popped + r.ready.length) % start.length

namespace Plays

variable {start r : Replay} {popped : Nat}

theorem ofStream {codec : Codec} {stream : Bytes} (h : Replay.ofStream codec stream = .ok r) :
    Plays r 0 r := by
  obtain ⟨-, hnext, hready⟩ := recorded_of_ofStream h
  refine ⟨rfl, by rw [hready]; rfl, ?_⟩
  rw [hnext, hready, List.length_nil, Nat.zero_mod]

theorem ready_push (h : Plays start popped r) :
    r.push.ready = r.ready ++ [start.cyclic (popped + r.ready.length)] := by
  have hnext : r.recorded[r.next]? = some (start.cyclic (popped + r.ready.length)) := by
    rw [h.recorded, h.next]
    exact List.getElem?_eq_getElem _
  simp [Replay.push, hnext]

/-- A push makes the next access unit of the repetition ready. -/
theorem push (h : Plays start popped r) : Plays start popped r.push := by
  have hlength : r.length = start.length := by rw [length, h.recorded, length]
  refine ⟨h.recorded, ?_, ?_⟩
  · rw [h.ready_push, List.length_append, List.length_singleton, List.range'_1_concat,
      List.map_append, ← h.ready, List.map_singleton]
  · rw [h.ready_push, List.length_append, List.length_singleton]
    simp only [Replay.push, hlength, h.next, Nat.mod_add_mod, Nat.add_assoc]

/-- What is taken is the next access unit of the repetition, if anything is ready. -/
theorem pop (h : Plays start popped r) :
    r.pop = (none, r) ∧ r.ready = [] ∨
      ∃ rest, r.pop = (some (start.cyclic popped), rest) ∧ Plays start (popped + 1) rest := by
  cases hready : r.ready with
  | nil => exact .inl ⟨by simp [Replay.pop, hready], rfl⟩
  | cons first later =>
    right
    have hall := h.ready
    rw [hready, List.length_cons, List.range'_succ, List.map_cons, List.cons.injEq] at hall
    have hnext := h.next
    rw [hready, List.length_cons] at hnext
    refine ⟨{ r with ready := later }, by simp [Replay.pop, hready, hall.1], h.recorded, hall.2, ?_⟩
    change r.next = _
    rw [hnext, Nat.add_right_comm, Nat.add_assoc popped]

end Plays

end Replay

end LiveCamera
