import LiveCamera.Pipeline.Worker
import LiveCamera.Proofs.Hevc.Lossless
import LiveCamera.Proofs.Replay.Recording
import LiveCamera.Proofs.Track.Integrity

/-!
# From a recording to the receiver

The whole way of H.265 video: a recording is the encoder of a streaming worker, and a video track
with its payloader and sink is the viewer.  Camera, clock, audio and events are whatever they like.
An access unit ends in a picture, so the payloader holds nothing back between two of them, and each
one arrives complete with its own packets (`Conveys`).  `Relayed` holds what the encoder has given
against what was sent; every round keeps it, and `receiveAll_run` is what the receiver gets.
-/

namespace LiveCamera

/-! ## One access unit -/

/-- An access unit that ends in a picture is received at once and completely, and no parameter set
waits behind it. -/
theorem Hevc.receiveAll_payload_of_picture {mtu : Nat} (hmtu : 4 ≤ mtu) (hlimit : mtu ≤ 65535)
    {data : Bytes} {before : List Bytes} {picture : Bytes}
    (hunits : unitsOf data = before ++ [picture])
    (hpicture : Codec.h265.isPicture picture = true) (hlength : 2 ≤ picture.length)
    (htype : ∀ unit ∈ unitsOf data, ∀ type ∈ Codec.h265.unitType? unit, type ≤ 47) :
    let sent := Payloader.fresh.payload mtu data
    sent.1 ≠ [] ∧ sent.2 = .fresh ∧
      Depayloader.fresh.receiveAll sent.1 = some ((unitsOf data).filter isKept, .fresh) := by
  intro sent
  have hsent := Transferred.start.payload hmtu hlimit htype
  obtain ⟨first, second, rest, rfl⟩ : ∃ first second rest, picture = first :: second :: rest := by
    match picture, hlength with
    | first :: second :: rest, _ => exact ⟨first, second, rest, rfl⟩
  have htypeOf : typeOf first ≤ 31 := by
    simpa [Codec.isPicture, Codec.unitType?, typeOf] using hpicture
  have hkept : isKept (first :: second :: rest) = true := by
    rw [isKept_cons_cons, delimiter, filler]
    omega
  have hset : ¬isParameterSet (first :: second :: rest) = true := by
    rw [isParameterSet_cons, vps, sps, pps]
    omega
  have hfilter : [] ++ (unitsOf data).filter isKept =
      before.filter isKept ++ [first :: second :: rest] := by
    rw [hunits, List.filter_append, List.filter_cons_of_pos hkept, List.filter_nil,
      List.nil_append]
  have hreceived := hsent.received
  have hheld := hsent.held
  rw [hfilter, List.rdropWhile_concat_neg _ _ _ hset, ← hfilter, List.nil_append,
    List.nil_append] at hreceived
  rw [hfilter, List.rtakeWhile_concat_neg _ _ _ hset] at hheld
  refine ⟨?_, congrArg Payloader.mk hheld, hreceived⟩
  intro hnothing
  change Depayloader.fresh.receiveAll sent.1 = _ at hreceived
  rw [hnothing, ← List.nil_append (List.filter _ _), hfilter] at hreceived
  simp [Depayloader.receiveAll] at hreceived

namespace Pipeline

/-- Whether an access unit can be sent and received unit by unit: its units keep their borders, have
a whole header of a type for the payload format, and the last one is a picture. -/
def Playable (a : AccessUnit) : Prop :=
  ∃ before picture, a.units = (before ++ [picture]).map NalUnit.framed ∧
    Codec.h265.isPicture picture.payload = true ∧
    ∀ u ∈ before ++ [picture], u.WellFramed ∧ 2 ≤ u.payload.length ∧
      ∀ type ∈ Codec.h265.unitType? u.payload, type ≤ 47

/-- Packets that bring a receiver one access unit, without delimiters and filler. -/
structure Conveys (packets : List Rtp.Packet) (a : AccessUnit) : Prop where
  nonempty : packets ≠ []
  received : Hevc.Depayloader.fresh.receiveAll (packets.map (·.payload)) =
    some (a.nalUnits.filter Hevc.isKept, .fresh)
  timestamp : ∃ time, ∀ packet ∈ packets, packet.timestamp = time
  marker : ∀ i packet, packets[i]? = some packet → (packet.marker = true ↔ i + 1 = packets.length)

/-- A track between two access units: it is open, and its payloader holds nothing back. -/
structure Idle (t : VideoTrack Rtp.Payloader) : Prop where
  isOpen : t.isOpen = true
  memory : t.memory = .h265 .fresh

theorem Playable.receiveAll_payload {a : AccessUnit} (h : Playable a) :
    let sent := Hevc.Payloader.fresh.payload Rtp.payloadLimit a.concat
    sent.1 ≠ [] ∧ sent.2 = .fresh ∧
      Hevc.Depayloader.fresh.receiveAll sent.1 =
        some (a.nalUnits.filter Hevc.isKept, .fresh) := by
  intro sent
  obtain ⟨before, picture, hunits, hpicture, hsound⟩ := h
  obtain ⟨hsplit, hnal⟩ := AccessUnit.split_concat hunits fun u hu ↦ (hsound u hu).1
  have hpayloads : Hevc.unitsOf a.concat = before.map (·.payload) ++ [picture.payload] := by
    rw [Hevc.unitsOf, hsplit, List.map_append, List.map_singleton]
  have htype : ∀ unit ∈ Hevc.unitsOf a.concat, ∀ type ∈ Codec.h265.unitType? unit, type ≤ 47 := by
    intro unit hunit
    rw [Hevc.unitsOf, hsplit] at hunit
    obtain ⟨u, hu, rfl⟩ := List.mem_map.mp hunit
    exact (hsound u hu).2.2
  obtain ⟨-, hlength, -⟩ := hsound picture (List.mem_append_right before List.mem_cons_self)
  have hlow : 4 ≤ Rtp.payloadLimit := by decide
  have hhigh : Rtp.payloadLimit ≤ 65535 := by decide
  rw [hnal, ← hsplit]
  exact Hevc.receiveAll_payload_of_picture hlow hhigh hpayloads hpicture hlength htype

theorem Playable.concat_ne_nil {a : AccessUnit} (h : Playable a) : a.concat ≠ [] := by
  obtain ⟨before, picture, hunits, -, hsound⟩ := h
  obtain ⟨hsplit, -⟩ := AccessUnit.split_concat hunits fun u hu ↦ (hsound u hu).1
  intro hempty
  rw [hempty] at hsplit
  simp at hsplit

/-- An idle track sends a playable access unit completely and is idle again. -/
theorem Idle.write {t : VideoTrack Rtp.Payloader} (h : Idle t) {a : AccessUnit} (ha : Playable a)
    (ticks : Nat) :
    let w := t.write a.concat ticks fun _ ↦ .stored
    w.result = .ok () ∧ Conveys w.stored a ∧ Idle w.track := by
  intro w
  obtain ⟨hnonempty, hfresh, hreceived⟩ := ha.receiveAll_payload
  have hpayload : Rtp.Payloader.payload t.memory a.concat =
      (.ok (Hevc.Payloader.fresh.payload Rtp.payloadLimit a.concat).1, .h265 .fresh) := by
    rw [h.memory, Rtp.Payloader.payload, hfresh]
  have hunlocked : t.gate.locked = false := Gate.locked_of_isOpen h.isOpen
  obtain ⟨hresult, hstored, hgate, -, hmemory⟩ :=
    t.writeWith_of_ok Rtp.Payloader.payload a.concat ticks (fun _ ↦ .stored) ha.concat_ne_nil
      h.isOpen hpayload
  rw [VideoTrack.send_stored _ _ hunlocked] at hresult hstored hgate
  dsimp only at hresult hstored hgate
  have hunit : Rtp.IsAccessUnit t.next ticks _ w.stored :=
    hstored ▸ Rtp.isAccessUnit_packets t.next ticks _
  have hopen := h.isOpen
  rw [VideoTrack.isOpen, ← hgate] at hopen
  refine ⟨hresult, ⟨?_, ?_, ?_, hunit.marker⟩, hopen, hmemory⟩
  · intro hnothing
    exact hnonempty (by rw [← hunit.payloads, hnothing, List.map_nil])
  · change _ = some _ at hreceived
    rwa [← hunit.payloads] at hreceived
  · refine ⟨UInt32.ofNat ticks, fun packet hpacket ↦ UInt32.toNat_inj.mp ?_⟩
    rw [hunit.timestamp packet hpacket, UInt32.toNat_ofNat']

/-! ## The collaborators -/

/-- The encoder and the viewer of a worker. -/
structure Media where
  encoder : Replay
  track : VideoTrack Rtp.Payloader
  /-- What the encoder has given to the worker, oldest first. -/
  taken : List AccessUnit
  /-- What the sink has stored, one list of packets for each write. -/
  sent : List (List Rtp.Packet)

/-- The worker asks the encoder for an access unit. -/
def Media.popUnit (x : Media) : Option AccessUnit × Media :=
  let (unit, encoder) := x.encoder.pop
  (unit, { x with encoder, taken := x.taken ++ unit.toList })

section Stations

variable {τ : Type}

/-- A call that does not concern encoder and viewer. -/
def beside {α : Type} (call : τ → α × τ) (s : τ × Media) : α × τ × Media :=
  ((call s.1).1, (call s.1).2, s.2)

/-- The stations of a worker that sends a recording to a track whose sink stores everything.
Everything else is done by the stations `p`. -/
def mediaPath (p : Stations τ) : Stations (τ × Media) where
  isVideoOpen s := (s.2.track.isOpen, s)
  popFrame := beside p.popFrame
  popUnit s := (.ok s.2.popUnit.1, s.1, s.2.popUnit.2)
  now := beside p.now
  publish event s := (p.publish event s.1, s.2)
  pushVideo data ticks s :=
    let w := s.2.track.write data ticks fun _ ↦ .stored
    (w.result, s.1, { s.2 with track := w.track, sent := s.2.sent ++ [w.stored] })
  releaseUnit unit s := (p.releaseUnit unit s.1, s.2)
  pushFrame _ s := (.ok (), s.1, { s.2 with encoder := s.2.encoder.push })
  releaseFrame frame s := (p.releaseFrame frame s.1, s.2)
  audioTurns s := p.audioTurns s.1
  popAudio := beside p.popAudio
  isAudioOpen := beside p.isAudioOpen
  pushAudio packet := beside (p.pushAudio packet)

end Stations

/-! ## Rounds -/

variable {τ : Type} {p : Stations τ} {start : Replay} {w : Worker}

/-- What has become of the first `m` access units of the recording: all of them were sent, and the
track is ready for the next one. -/
structure Delivered (start : Replay) (m : Nat) (x : Media) : Prop where
  idle : Idle x.track
  sent : List.Forall₂ Conveys x.sent ((List.range m).map start.cyclic)

/-- The encoder has given the first `m` access units of the recording and goes on from there. -/
structure Supplied (start : Replay) (m : Nat) (x : Media) : Prop where
  plays : start.Plays m x.encoder
  taken : x.taken = (List.range m).map start.cyclic

/-- Where a worker is: it has sent and counted what the encoder has given. -/
structure Relayed (start : Replay) (w : Worker) (x : Media) : Prop where
  /-- Before the stream has begun nothing was taken. -/
  begun : w.startedAt = none → w.stats.encoded = 0
  supplied : Supplied start w.stats.encoded x
  delivered : Delivered start w.stats.encoded x

/-- What the encoder gives is the next access unit of the recording. -/
theorem Supplied.popUnit {m : Nat} {x : Media} (h : Supplied start m x) :
    x.popUnit = (none, x) ∨
      x.popUnit.1 = some (start.cyclic m) ∧ Supplied start (m + 1) x.popUnit.2 := by
  rcases h.plays.pop with ⟨hnone, -⟩ | ⟨rest, hsome, hplays⟩
  · left
    simp only [Media.popUnit, hnone, Option.toList_none, List.append_nil]
  · right
    have hpop : x.popUnit = (some (start.cyclic m),
        { x with encoder := rest, taken := x.taken ++ [start.cyclic m] }) := by
      simp only [Media.popUnit, hsome, Option.toList_some]
    rw [hpop]
    refine ⟨rfl, hplays, ?_⟩
    rw [h.taken, List.range_succ, List.map_append, List.map_singleton]

/-- The next access unit of a stream that has begun is sent. -/
theorem Delivered.deliver {m : Nat} {x : Media} (h : Delivered start m x) (w : Worker)
    (hsupplied : Supplied start (m + 1) x) (hplayable : Playable (start.cyclic m))
    (hstarted : w.startedAt ≠ none) (hencoded : w.stats.encoded = m + 1) (base : Nat)
    (others : τ) :
    let after := w.deliver (mediaPath p) base (start.cyclic m) (others, x)
    Relayed start after.1 after.2.2 := by
  intro after
  let ticks := timestamp ((p.now others).1 - base)
  let written := x.track.write (start.cyclic m).concat ticks fun _ ↦ .stored
  obtain ⟨hresult, hconveys, hidle⟩ := h.idle.write hplayable ticks
  have hafter : after = ({ w with stats := { w.stats with sent := w.stats.sent + 1 } },
      (p.now others).2,
      { x with track := written.track, sent := x.sent ++ [written.stored] }) := by
    unfold ticks at hresult
    simp only [after, Worker.deliver, mediaPath, beside, h.idle.isOpen, if_true, hresult]
    rfl
  have hsent : List.Forall₂ Conveys (x.sent ++ [written.stored])
      ((List.range (m + 1)).map start.cyclic) := by
    rw [List.range_succ, List.map_append]
    exact List.rel_append h.sent (.cons hconveys .nil)
  rw [hafter]
  refine ⟨fun hnone ↦ absurd hnone hstarted, ?_, hidle, ?_⟩ <;> dsimp only <;> rw [hencoded]
  · exact ⟨hsupplied.plays, hsupplied.taken⟩
  · exact hsent

/-- The first access unit begins the stream. -/
theorem Delivered.forward {m : Nat} {x : Media} (h : Delivered start m x) (w : Worker)
    (hsupplied : Supplied start (m + 1) x) (hplayable : Playable (start.cyclic m))
    (hfirst : 1 < (start.cyclic 0).count) (hbegun : w.startedAt = none → m = 0)
    (hencoded : w.stats.encoded = m + 1) (others : τ) :
    let after := w.forward (mediaPath p) (start.cyclic m) (others, x)
    Relayed start after.1 after.2.2 := by
  intro after
  rcases hstarted : w.startedAt with _ | base
  · have hcount : ¬(start.cyclic m).count ≤ 1 := by
      rw [hbegun hstarted]
      exact Nat.not_le.mpr hfirst
    let time := p.now others
    let begun : Worker := { w with startedAt := some time.1 }
    have hafter : after = begun.deliver (mediaPath p) time.1 (start.cyclic m)
        (p.publish .keyframeReady time.2, x) := by
      simp only [after, Worker.forward, hstarted, if_neg hcount]
      rfl
    rw [hafter]
    exact h.deliver begun hsupplied hplayable (Option.some_ne_none time.1) hencoded _ _
  · have hafter : after = w.deliver (mediaPath p) base (start.cyclic m) (others, x) := by
      simp only [after, Worker.forward, hstarted]
    have hbegan : w.startedAt ≠ none := hstarted ▸ Option.some_ne_none base
    rw [hafter]
    exact h.deliver w hsupplied hplayable hbegan hencoded base others

namespace Relayed

variable {x : Media}

/-- What the encoder has ready is sent at once. -/
theorem handleUnit (h : Relayed start w x) (hplayable : ∀ k, Playable (start.cyclic k))
    (hfirst : 1 < (start.cyclic 0).count) (others : τ) :
    let after := w.handleUnit (mediaPath p) x.popUnit.1 (others, x.popUnit.2)
    Relayed start after.1 after.2.2 := by
  rcases h.supplied.popUnit with hnone | ⟨hsome, hsupplied⟩
  · rw [hnone]
    exact h
  · rw [hsome]
    let counted : Worker := { w with stats := { w.stats with encoded := w.stats.encoded + 1 } }
    have hdelivered : Delivered start w.stats.encoded x.popUnit.2 :=
      ⟨h.delivered.idle, h.delivered.sent⟩
    exact hdelivered.forward counted hsupplied (hplayable _) hfirst h.begun rfl others

/-- A captured frame makes the next access unit ready. -/
theorem handleFrame (h : Relayed start w x) (frame : Option Frame) (others : τ) :
    let after := w.handleFrame (mediaPath p) frame (others, x)
    Relayed start after.1 after.2.2 := by
  cases frame with
  | none => exact h
  | some frame =>
    exact ⟨h.begun, ⟨h.supplied.plays.push, h.supplied.taken⟩, h.delivered.idle, h.delivered.sent⟩

/-- Audio does not get in the way. -/
theorem drainAudio (h : Relayed start w x) (turns : Nat) (others : τ) :
    let after := w.drainAudio (mediaPath p) turns (others, x)
    Relayed start after.1 after.2.2 := by
  induction turns generalizing w others with
  | zero => exact h
  | succ turns ih =>
    unfold Worker.drainAudio
    dsimp only
    split
    · exact h
    · split_ifs
      · split
        · have hsent : Relayed start
              { w with stats := { w.stats with audioSent := w.stats.audioSent + 1 } } x :=
            ⟨h.begun, h.supplied, h.delivered⟩
          exact ih hsent _
        · exact ih h _
      · exact ih h _

theorem step (h : Relayed start w x) (hplayable : ∀ k, Playable (start.cyclic k))
    (hfirst : 1 < (start.cyclic 0).count) (others : τ) :
    let after := w.step (mediaPath p) (others, x)
    Relayed start after.1 after.2.2 := by
  intro after
  let frame := p.popFrame others
  let afterUnit := w.handleUnit (mediaPath p) x.popUnit.1 (frame.2, x.popUnit.2)
  let afterFrame := afterUnit.1.handleFrame (mediaPath p) (offered frame.1) afterUnit.2
  have hafter : after = afterFrame.1.drainAudio (mediaPath p) (p.audioTurns afterFrame.2.1)
      afterFrame.2 := if_pos h.delivered.idle.isOpen
  have hunit : Relayed start afterUnit.1 afterUnit.2.2 := h.handleUnit hplayable hfirst frame.2
  have hframe : Relayed start afterFrame.1 afterFrame.2.2 :=
    hunit.handleFrame (offered frame.1) afterUnit.2.1
  rw [hafter]
  exact hframe.drainAudio _ afterFrame.2.1

theorem run (h : Relayed start w x) (hplayable : ∀ k, Playable (start.cyclic k))
    (hfirst : 1 < (start.cyclic 0).count) (rounds : Nat) (others : τ) :
    let after := Worker.run (mediaPath p) rounds (w, others, x)
    Relayed start after.1 after.2.2 := by
  induction rounds generalizing w others x with
  | zero => exact h
  | succ rounds ih =>
    rw [Worker.run_succ]
    exact ih (h.step hplayable hfirst others) _

end Relayed

/-! ## Whole runs -/

/-- Every access unit of a recording can be sent and received unit by unit. -/
theorem playable_of_ofStream {stream : Bytes} (hstart : Replay.ofStream .h265 stream = .ok start)
    (hunits : ∀ u ∈ AnnexB.split stream, 2 ≤ u.payload.length ∧
      (∀ type ∈ Codec.h265.unitType? u.payload, type ≤ 47) ∧ u.payload.getLast? ≠ some 0)
    (hfirst : 1 < (start.cyclic 0).count) (k : Nat) : Playable (start.cyclic k) := by
  obtain ⟨hrecorded, -⟩ := Replay.recorded_of_ofStream hstart
  have hmem (k : Nat) : start.cyclic k ∈ AccessUnit.group .h265 (AnnexB.split stream) :=
    hrecorded ▸ start.cyclic_mem k
  obtain ⟨before, picture, hus, hpicture, hinfix⟩ := AccessUnit.exists_of_mem_group (hmem k)
  refine ⟨before, picture, hus, hpicture, fun u hu ↦ ?_⟩
  have husplit := hinfix.mem hu
  obtain ⟨hlength, htype, hlast⟩ := hunits u husplit
  rcases AnnexB.split_cases stream with hsplit | hsplit | hsplit
  · rw [hsplit] at husplit
    exact absurd husplit List.not_mem_nil
  · have hcount := hmem 0
    rw [hsplit] at hcount
    exact absurd (AccessUnit.count_of_mem_group_singleton hcount) hfirst.ne'
  · obtain ⟨hcode, hpayload, hfree⟩ := hsplit u husplit
    exact ⟨⟨hcode, hpayload, hfree, hlast⟩, hlength, htype⟩

/-- What a receiver gets from access units that were sent one after the other. -/
theorem receiveAll_flatten {sent : List (List Rtp.Packet)} {units : List AccessUnit}
    (h : List.Forall₂ Conveys sent units) :
    Hevc.Depayloader.fresh.receiveAll (sent.flatten.map (·.payload)) =
      some (units.flatMap fun a ↦ a.nalUnits.filter Hevc.isKept, .fresh) := by
  induction h with
  | nil => rfl
  | cons hconveys _ ih =>
    rw [List.flatten_cons, List.map_append, List.flatMap_cons]
    exact Hevc.Depayloader.receiveAll_append hconveys.received ih

/-- From the recording to the receiver.  While the viewer stays and the sink stores everything, a
worker sends what the encoder gives, which is one recorded access unit after the other, over and
over again: the receiver gets exactly their units, in order and without delimiters and filler.  The
packets of one access unit have one timestamp, and the marker stands on the last of them. -/
theorem receiveAll_run (stream : Bytes) (start : Replay)
    (hstart : Replay.ofStream .h265 stream = .ok start)
    (hunits : ∀ u ∈ AnnexB.split stream, 2 ≤ u.payload.length ∧
      (∀ type ∈ Codec.h265.unitType? u.payload, type ≤ 47) ∧ u.payload.getLast? ≠ some 0)
    (hfirst : 1 < (start.cyclic 0).count) (p : Stations τ) (others : τ) (generation : Nat)
    (first : UInt16) (rounds : Nat) :
    let track := (VideoTrack.ofCodec .h265 generation first).setOpen true
    let after := Worker.run (mediaPath p) rounds (.fresh, others, ⟨start, track, [], []⟩)
    let m := after.2.2.taken.length
    let sent := after.2.2.sent
    after.2.2.taken = (List.range m).map start.cyclic ∧ after.1.stats.encoded = m ∧
      Hevc.Depayloader.fresh.receiveAll (sent.flatten.map (·.payload)) =
        some ((List.range m).flatMap fun k ↦ (start.cyclic k).nalUnits.filter Hevc.isKept,
          .fresh) ∧
      List.Forall₂ Conveys sent ((List.range m).map start.cyclic) := by
  intro track after m sent
  have hbegin : Relayed start .fresh ⟨start, track, [], []⟩ :=
    ⟨fun _ ↦ rfl, ⟨.ofStream hstart, rfl⟩, ⟨rfl, rfl⟩, .nil⟩
  have hplayable := playable_of_ofStream hstart hunits hfirst
  have hrelayed : Relayed start after.1 after.2.2 := hbegin.run hplayable hfirst rounds others
  have hcount : after.1.stats.encoded = m := by
    unfold m
    rw [hrelayed.supplied.taken, List.length_map, List.length_range]
  have htaken := hrelayed.supplied.taken
  have hsent := hrelayed.delivered.sent
  rw [hcount] at htaken hsent
  refine ⟨htaken, hcount, ?_, hsent⟩
  rw [receiveAll_flatten hsent, List.flatMap_map]

/-- Stations with a camera that always has a frame and a clock that shows another 20 milliseconds at
each look. -/
def stillCamera (frame : Frame) : Stations Nat where
  isVideoOpen s := (true, s)
  popFrame s := (.ok (some frame), s)
  popUnit s := (.ok none, s)
  now s := (s, s + 20000000)
  publish _ s := s
  pushVideo _ _ s := (.ok (), s)
  releaseUnit _ s := s
  pushFrame _ s := (.ok (), s)
  releaseFrame _ s := s
  audioTurns _ := 0
  popAudio s := (.ok none, s)
  isAudioOpen s := (false, s)
  pushAudio _ s := (.ok (), s)

/-- Parameter sets, a key picture, a delimiter and a second picture; the repetition begins with the
third access unit. -/
theorem receiveAll_run_two_pictures :
    let stream : Bytes := [0, 0, 0, 1, 64, 1, 12, 0, 0, 1, 66, 1, 3, 0, 0, 1, 68, 1, 5,
      0, 0, 0, 1, 38, 1, 175, 0, 0, 1, 70, 1, 80, 0, 0, 0, 1, 2, 1, 208]
    let start : Replay := ⟨[⟨[[0, 0, 0, 1, 64, 1, 12], [0, 0, 1, 66, 1, 3], [0, 0, 1, 68, 1, 5],
      [0, 0, 0, 1, 38, 1, 175]]⟩, ⟨[[0, 0, 1, 70, 1, 80], [0, 0, 0, 1, 2, 1, 208]]⟩],
      List.cons_ne_nil _ _, 0, []⟩
    let camera := stillCamera ⟨[], ⟨64, 64⟩, .nv21, 0⟩
    let after := Worker.run (mediaPath camera) 4
      (.fresh, 0, ⟨start, (VideoTrack.ofCodec .h265 1 65534).setOpen true, [], []⟩)
    Replay.ofStream .h265 stream = .ok start ∧
      (∀ u ∈ AnnexB.split stream, 2 ≤ u.payload.length ∧
        (∀ type ∈ Codec.h265.unitType? u.payload, type ≤ 47) ∧ u.payload.getLast? ≠ some 0) ∧
      1 < (start.cyclic 0).count ∧ after.2.2.taken.length = 3 ∧ after.1.stats.encoded = 3 ∧
      Hevc.Depayloader.fresh.receiveAll (after.2.2.sent.flatten.map (·.payload)) =
        some ([[64, 1, 12], [66, 1, 3], [68, 1, 5], [38, 1, 175], [2, 1, 208],
          [64, 1, 12], [66, 1, 3], [68, 1, 5], [38, 1, 175]], .fresh) := by
  intro stream start camera after
  have hstart : Replay.ofStream .h265 stream = .ok start := rfl
  have hunits : ∀ u ∈ AnnexB.split stream, 2 ≤ u.payload.length ∧
      (∀ type ∈ Codec.h265.unitType? u.payload, type ≤ 47) ∧ u.payload.getLast? ≠ some 0 := by
    decide
  have hfirst : 1 < (start.cyclic 0).count := by decide
  have htaken : after.2.2.taken.length = 3 := by decide +kernel
  obtain ⟨-, hencoded, hreceived, -⟩ :=
    receiveAll_run stream start hstart hunits hfirst camera 0 1 65534 4
  refine ⟨hstart, hunits, hfirst, htaken, ?_, ?_⟩
  · rw [hencoded, htaken]
  · rw [hreceived, htaken]
    decide

end Pipeline

end LiveCamera
