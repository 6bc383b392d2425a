import LiveCamera.Proofs.Replay.Recording

/-!
# A recording played in a loop

Which streams can be replayed (`ofStream_cases`), and what any calls take from a recording.  What
was taken, followed by what is ready, is the endless repetition as far as it was released: every
call keeps this (`Looped`), so that nothing is lost, repeated or out of order.
-/

namespace LiveCamera

/-! ## Streams that can be replayed -/

namespace Codec

/-- One of the units carries picture data. -/
def HasPicture (codec : Codec) (units : List NalUnit) : Prop :=
  ∃ unit ∈ units, codec.isPicture unit.payload = true

/-- One of the units carries a picture that needs no earlier one. -/
def HasKeyPicture (codec : Codec) (units : List NalUnit) : Prop :=
  ∃ unit ∈ units, codec.isKeyPicture unit.payload = true

theorem HasKeyPicture.hasPicture {codec : Codec} {units : List NalUnit}
    (h : codec.HasKeyPicture units) : codec.HasPicture units :=
  h.imp fun _ hunit ↦ ⟨hunit.1, isPicture_of_isKeyPicture hunit.2⟩

end Codec

namespace Replay

/-- A stream without pictures and one without key pictures are refused; any other one can be
replayed. -/
theorem ofStream_cases (codec : Codec) (stream : Bytes) :
    let units := AnnexB.split stream
    ¬ codec.HasPicture units ∧ ofStream codec stream = .error (.noPictures codec) ∨
      codec.HasPicture units ∧ ¬ codec.HasKeyPicture units ∧
        ofStream codec stream = .error (.noKeyframe codec) ∨
      codec.HasKeyPicture units ∧ ∃ r, ofStream codec stream = .ok r := by
  intro units
  have hgroup : AccessUnit.group codec units = [] ↔ ¬ codec.HasPicture units := by
    simp [AccessUnit.group_eq_nil_iff, Codec.HasPicture]
  have hkey : units.any (fun unit ↦ codec.isKeyPicture unit.payload) = true ↔
      codec.HasKeyPicture units := List.any_eq_true
  by_cases hpictures : AccessUnit.group codec units = []
  · refine .inl ⟨hgroup.mp hpictures, ?_⟩
    rw [ofStream, dif_pos hpictures]
  · right
    by_cases hkeys : codec.HasKeyPicture units
    · refine .inr ⟨hkeys, ⟨_, hpictures, 0, []⟩, ?_⟩
      rw [ofStream, dif_neg hpictures, if_pos (hkey.mpr hkeys)]
    · refine .inl ⟨not_not.mp (mt hgroup.mpr hpictures), hkeys, ?_⟩
      rw [ofStream, dif_neg hpictures, if_neg (mt hkey.mp hkeys)]

/-! ## Calls -/

/-- What is asked of a recording. -/
inductive Call
  | push
  | pop
  deriving DecidableEq, Repr

/-- What a call takes, and what it leaves. -/
def perform (r : Replay) : Call → Option AccessUnit × Replay
  | .push => (none, r.push)
  | .pop => r.pop

/-- What several calls take, one after the other. -/
def performAll (r : Replay) : List Call → List AccessUnit × Replay
  | [] => ([], r)
  | call :: later =>
    let now := r.perform call
    let rest := now.2.performAll later
    (now.1.toList ++ rest.1, rest.2)

/-- How far the recording `start` was played by so many pushes: what was taken, and behind it what
`r` has ready. -/
structure Looped (start : Replay) (pushes : Nat) (taken : List AccessUnit) (r : Replay) : Prop where
  plays : Plays start taken.length r
  released : taken ++ r.ready = (List.range pushes).map start.cyclic

namespace Looped

variable {start r : Replay} {pushes : Nat} {taken : List AccessUnit}

theorem ofStream {codec : Codec} {stream : Bytes} (h : Replay.ofStream codec stream = .ok r) :
    Looped r 0 [] r where
  plays := Plays.ofStream h
  released := by rw [(recorded_of_ofStream h).2.2]; rfl

theorem length_add_length (h : Looped start pushes taken r) :
    taken.length + r.ready.length = pushes := by
  have hlength := congrArg List.length h.released
  rwa [List.length_append, List.length_map, List.length_range] at hlength

theorem push (h : Looped start pushes taken r) : Looped start (pushes + 1) taken r.push where
  plays := h.plays.push
  released := by
    calc
      taken ++ r.push.ready = taken ++ r.ready ++ [start.cyclic pushes] := by
        rw [h.plays.ready_push, h.length_add_length, List.append_assoc]
      _ = (List.range (pushes + 1)).map start.cyclic := by
        rw [h.released, List.range_succ, List.map_append, List.map_singleton]

theorem pop (h : Looped start pushes taken r) :
    Looped start pushes (taken ++ r.pop.1.toList) r.pop.2 := by
  rcases h.plays.pop with ⟨hpop, -⟩ | ⟨rest, hpop, hrest⟩
  · rw [hpop, Option.toList_none, List.append_nil]
    exact h
  · have hready : r.ready = start.cyclic taken.length :: rest.ready := by
      unfold Replay.pop at hpop
      split at hpop
      · simp at hpop
      · obtain ⟨hfirst, rfl⟩ := Prod.mk.inj hpop
        rwa [← Option.some.inj hfirst]
    rw [hpop, Option.toList_some]
    refine ⟨by rwa [List.length_append, List.length_singleton], ?_⟩
    rw [List.append_assoc, List.singleton_append, ← hready, h.released]

theorem perform (h : Looped start pushes taken r) (call : Call) :
    Looped start (pushes + [call].count .push) (taken ++ (r.perform call).1.toList)
      (r.perform call).2 := by
  cases call with
  | push =>
    rw [show (r.perform .push).1.toList = [] from rfl, List.append_nil]
    exact h.push
  | pop => exact h.pop

theorem performAll (h : Looped start pushes taken r) (calls : List Call) :
    Looped start (pushes + calls.count .push) (taken ++ (r.performAll calls).1)
      (r.performAll calls).2 := by
  induction calls generalizing r pushes taken with
  | nil =>
    rw [Replay.performAll, List.append_nil]
    exact h
  | cons call later ih =>
    have hlater := ih (h.perform call)
    rw [Nat.add_assoc, ← List.count_append, List.append_assoc] at hlater
    exact hlater

/-- What was taken is the repetition from its beginning. -/
theorem taken_eq (h : Looped start pushes taken r) :
    taken = (List.range taken.length).map start.cyclic := by
  calc
    taken = (taken ++ r.ready).take taken.length := (List.take_left ..).symm
    _ = (List.range taken.length).map start.cyclic := by
      rw [h.released, ← List.map_take, List.take_range, Nat.min_eq_left]
      rw [← h.length_add_length]
      exact Nat.le_add_right _ _

/-- A pop takes nothing exactly if as much was taken as was released. -/
theorem pop_eq_none_iff (h : Looped start pushes taken r) :
    r.pop.1 = none ↔ taken.length = pushes := by
  have hlength := h.length_add_length
  rw [Replay.pop]
  cases hready : r.ready with
  | nil => simpa [hready] using hlength
  | cons first later =>
    rw [hready, List.length_cons] at hlength
    simp only [reduceCtorEq, false_iff]
    omega

end Looped

/-- What a stream is replayed as.  It is refused exactly if it has no picture or no key picture.
Otherwise its access units are the NAL units up to the last picture, in groups that end in their
only picture.  Whatever is pushed and popped, what was taken is the endless repetition of the access
units from its beginning, and so is what was taken followed by what is ready, up to the last push;
and a pop takes nothing exactly if as many were taken as were pushed. -/
theorem replayed_stream (codec : Codec) (stream : Bytes) :
    let units := AnnexB.split stream
    ((∃ failure, ofStream codec stream = .error failure ∧ failure.kind = .argument) ↔
      ¬ codec.HasPicture units ∨ ¬ codec.HasKeyPicture units) ∧
    (codec.HasPicture units → codec.HasKeyPicture units →
      ∃ r groups, ofStream codec stream = .ok r ∧
        r.recorded = groups.map AccessUnit.ofNalUnits ∧
        AccessUnit.Grouped codec units groups ∧
        ∀ calls : List Call,
          let pushes := calls.count .push
          let after := r.performAll calls
          after.1 = (List.range after.1.length).map r.cyclic ∧
            after.1 ++ after.2.ready = (List.range pushes).map r.cyclic ∧
            (after.2.pop.1 = none ↔ after.1.length = pushes)) := by
  intro units
  rcases ofStream_cases codec stream with ⟨hnone, herror⟩ | ⟨-, hnokey, herror⟩ | ⟨hkey, r, hr⟩
  · refine ⟨⟨fun _ ↦ .inl hnone, fun _ ↦ ⟨_, herror, rfl⟩⟩, ?_⟩
    intro hpicture
    exact absurd hpicture hnone
  · refine ⟨⟨fun _ ↦ .inr hnokey, fun _ ↦ ⟨_, herror, rfl⟩⟩, ?_⟩
    intro _ hkey
    exact absurd hkey hnokey
  · constructor
    · constructor
      · rintro ⟨failure, herror, -⟩
        rw [hr] at herror
        cases herror
      · rintro (hnone | hnokey)
        · exact absurd hkey.hasPicture hnone
        · exact absurd hkey hnokey
    · intro _ _
      obtain ⟨groups, hgroups, hgrouped⟩ := AccessUnit.exists_grouped codec units
      refine ⟨r, groups, hr, (recorded_of_ofStream hr).1.trans hgroups, hgrouped, fun calls ↦ ?_⟩
      have hlooped := (Looped.ofStream hr).performAll calls
      rw [Nat.zero_add, List.nil_append] at hlooped
      exact ⟨hlooped.taken_eq, hlooped.released, hlooped.pop_eq_none_iff⟩

/-- Two access units and a parameter set behind the last picture, pushed three times: the first
access unit is taken again after the second, and then there is nothing to take. -/
theorem replayed_stream_twice_round :
    let stream : Bytes := [0, 0, 1, 103, 1, 0, 0, 0, 1, 101, 2, 0, 0, 1, 65, 3, 0, 0, 1, 103, 4]
    let first : AccessUnit := ⟨[[0, 0, 1, 103, 1], [0, 0, 0, 1, 101, 2]]⟩
    let second : AccessUnit := ⟨[[0, 0, 1, 65, 3]]⟩
    ∃ r, ofStream .h264 stream = .ok r ∧ r.recorded = [first, second] ∧
      (r.performAll [.push, .push, .pop, .push, .pop, .pop]).1 = [first, second, first] ∧
      (r.performAll [.push, .push, .pop, .push, .pop, .pop]).2.pop.1 = none := by
  intro stream first second
  have hpicture : Codec.h264.HasPicture (AnnexB.split stream) :=
    ⟨⟨5, 4, [101, 2]⟩, by decide, by decide⟩
  have hkey : Codec.h264.HasKeyPicture (AnnexB.split stream) :=
    ⟨⟨5, 4, [101, 2]⟩, by decide, by decide⟩
  obtain ⟨r, groups, hr, -, -, hcalls⟩ := (replayed_stream .h264 stream).2 hpicture hkey
  obtain ⟨htaken, -, hnone⟩ := hcalls [.push, .push, .pop, .push, .pop, .pop]
  obtain ⟨recorded, hrecorded_ne_nil, next, ready⟩ := r
  obtain ⟨hrecorded, rfl, rfl⟩ := recorded_of_ofStream hr
  obtain rfl : recorded = [first, second] := hrecorded.trans (by decide)
  have hlength : (performAll ⟨[first, second], hrecorded_ne_nil, 0, []⟩
      [.push, .push, .pop, .push, .pop, .pop]).1.length = 3 := by
    simp [performAll, perform, push, pop, length]
  rw [hlength] at htaken hnone
  refine ⟨_, hr, rfl, htaken.trans ?_, hnone.mpr (by decide)⟩
  simp [cyclic, length, List.range_succ]

end Replay

end LiveCamera
