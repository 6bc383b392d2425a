import LiveCamera.Proofs.Pipeline.Forwarding

/-!
# What a worker accounts for

Whatever it is answered, a worker hands every frame of the camera to the encoder, once and in order;
it sends an audio packet to the viewer if the viewer accepted audio right after the packet was
taken; and its counts are those of its log (`run_balanced`).  In the log of one round the parts of
its stations are found one after the other, and each part balances but for the frame, which is
taken before, and handed over after, the access unit is dealt with.
-/

namespace LiveCamera.Pipeline

theorem offered_eq_some_iff {α : Type} {answer : Except Failure (Option α)} {value : α} :
    offered answer = some value ↔ answer = .ok (some value) := by
  cases answer <;> simp [offered]

/-! ## Reading a log -/

namespace Call

/-- The frame that the camera had to give. -/
def captured? : Call → Option Frame
  | framePopped answer => offered answer
  | _ => none

/-- The frame handed to the encoder. -/
def handedOver? : Call → Option Frame
  | framePushed frame _ => some frame
  | _ => none

/-- Whether the viewer accepted an access unit. -/
def isAccepted : Call → Bool
  | videoPushed _ _ (.ok _) => true
  | _ => false

/-- The packet that the audio source had to give. -/
def heard? : Call → Option AudioPacket
  | audioPopped answer => offered answer
  | _ => none

/-- The audio packet sent to the viewer. -/
def played? : Call → Option AudioPacket
  | audioPushed packet _ => some packet
  | _ => none

/-- Whether the viewer accepted an audio packet. -/
def isAudioAccepted : Call → Bool
  | audioPushed _ (.ok _) => true
  | _ => false

/-- Whether the viewer was asked whether it accepts audio. -/
def isAudioOpen : Call → Bool
  | audioOpen _ => true
  | _ => false

/-- Whether the camera or the encoder was asked for what it has to give. -/
def isPop : Call → Bool
  | framePopped _ | unitPopped _ => true
  | _ => false

/-- The packets of the audio source behind which the viewer was asked at once whether it accepts
audio, each with the answer. -/
def asked : List Call → List (AudioPacket × Bool)
  | audioPopped (.ok (some packet)) :: audioOpen answer :: rest => (packet, answer) :: asked rest
  | _ :: rest => asked rest
  | [] => []

/-- A log that goes on with anything but that question can be read in two parts. -/
theorem asked_append {earlier later : List Call} (h : later.head?.any isAudioOpen = false) :
    asked (earlier ++ later) = asked earlier ++ asked later := by
  fun_induction asked earlier with
  | case1 packet answer rest ih => simp [asked, ih]
  | case2 call rest hcall ih =>
    rw [List.cons_append, asked, ih]
    intro packet answer others hpopped hasked
    cases rest with
    | nil =>
      obtain rfl : later = audioOpen answer :: others := hasked
      cases h
    | cons first rest =>
      obtain ⟨rfl, -⟩ := List.cons.inj hasked
      exact hcall packet answer rest hpopped rfl
  | case3 => rfl

end Call

/-! ## Counting -/

instance : Add Stats where
  add a b := ⟨a.captured + b.captured, a.encoded + b.encoded, a.sent + b.sent,
    a.refused + b.refused, a.audioSent + b.audioSent⟩

/-- Whether a log and the counts of what was done in it balance. -/
structure Balanced (calls : List Call) (counts : Stats) : Prop where
  /-- Frames are handed over as they were taken. -/
  frames : calls.filterMap Call.handedOver? = calls.filterMap Call.captured?
  captured : counts.captured = (calls.filterMap Call.captured?).length
  encoded : counts.encoded = (calls.filterMap Call.taken?).length
  sent : counts.sent = calls.countP Call.isAccepted
  pushed : counts.sent + counts.refused = (calls.filterMap Call.sent?).length
  /-- Behind every packet the viewer is asked whether it accepts audio. -/
  heard : (Call.asked calls).map Prod.fst = calls.filterMap Call.heard?
  /-- Those packets are sent for which it does. -/
  played : calls.filterMap Call.played? = ((Call.asked calls).filter Prod.snd).map Prod.fst
  audioSent : counts.audioSent = calls.countP Call.isAudioAccepted
  /-- That question does not come first, so that logs can be read one after the other. -/
  begins : calls.head?.any Call.isAudioOpen = false

namespace Stats

variable (a b : Stats)

theorem add_def : a + b = ⟨a.captured + b.captured, a.encoded + b.encoded, a.sent + b.sent,
    a.refused + b.refused, a.audioSent + b.audioSent⟩ := rfl

theorem add_assoc (c : Stats) : a + b + c = a + (b + c) := by
  simp [add_def, Nat.add_assoc]

theorem zero_add : zero + a = a := by
  simp [add_def, zero]

end Stats

namespace Balanced

theorem nil : Balanced [] .zero := by
  constructor <;> rfl

/-- Nothing was there, or the encoder failed. -/
theorem unitPopped {answer : Except Failure (Option AccessUnit)} (h : offered answer = none) :
    Balanced [.unitPopped answer] .zero := by
  rcases answer with _ | _ | unit
  · constructor <;> rfl
  · constructor <;> rfl
  · cases h

/-- Nothing was there, or the audio source failed. -/
theorem audioPopped {answer : Except Failure (Option AudioPacket)} (h : offered answer = none) :
    Balanced [.audioPopped answer] .zero := by
  rcases answer with _ | _ | packet
  · constructor <;> rfl
  · constructor <;> rfl
  · cases h

variable (packet : AudioPacket)

theorem audioMissed :
    Balanced [.audioPopped (.ok (some packet)), .audioOpen false] .zero := by
  constructor <;> rfl

theorem audioAccepted :
    Balanced [.audioPopped (.ok (some packet)), .audioOpen true, .audioPushed packet (.ok ())]
      { Stats.zero with audioSent := 1 } := by
  constructor <;> rfl

theorem audioRefused (cause : Failure) :
    Balanced [.audioPopped (.ok (some packet)), .audioOpen true,
      .audioPushed packet (.error cause)] .zero := by
  constructor <;> rfl

theorem append {a b : List Call} {m n : Stats} (ha : Balanced a m) (hb : Balanced b n) :
    Balanced (a ++ b) (m + n) where
  frames := by rw [List.filterMap_append, List.filterMap_append, ha.frames, hb.frames]
  captured := by
    rw [List.filterMap_append, List.length_append, ← ha.captured, ← hb.captured]
    rfl
  encoded := by
    rw [List.filterMap_append, List.length_append, ← ha.encoded, ← hb.encoded]
    rfl
  sent := by
    rw [List.countP_append, ← ha.sent, ← hb.sent]
    rfl
  pushed := by
    rw [List.filterMap_append, List.length_append, ← ha.pushed, ← hb.pushed]
    exact Nat.add_add_add_comm m.sent n.sent m.refused n.refused
  heard := by
    rw [Call.asked_append hb.begins, List.map_append, List.filterMap_append, ha.heard, hb.heard]
  played := by
    rw [Call.asked_append hb.begins, List.filter_append, List.map_append, List.filterMap_append,
      ha.played, hb.played]
  audioSent := by
    rw [List.countP_append, ← ha.audioSent, ← hb.audioSent]
    rfl
  begins := by
    cases a with
    | nil => exact hb.begins
    | cons first rest => exact ha.begins

/-- The camera had nothing, or failed. -/
theorem framePopped {answer : Except Failure (Option Frame)} (h : offered answer = none) :
    Balanced [.videoOpen true, .framePopped answer] .zero := by
  rcases answer with _ | _ | frame
  · constructor <;> rfl
  · constructor <;> rfl
  · cases h

/-- A frame is taken before, and handed over after, something that has nothing to do with frames. -/
theorem around_frame {calls : List Call} {counts : Stats} (h : Balanced calls counts)
    (hframes : calls.filterMap Call.captured? = []) (frame : Frame)
    (answer : Except Failure Unit) :
    Balanced (.videoOpen true :: .framePopped (.ok (some frame)) :: calls ++
      [.framePushed frame answer, .frameReleased frame])
      (counts + { Stats.zero with captured := 1 }) := by
  have hnone : calls.filterMap Call.handedOver? = [] := h.frames.trans hframes
  have hcount : counts.captured = 0 := h.captured.trans (congrArg List.length hframes)
  have hasked : Call.asked (.videoOpen true :: .framePopped (.ok (some frame)) :: calls ++
      [.framePushed frame answer, .frameReleased frame]) = Call.asked calls := by
    have hafter : Call.asked (calls ++ [.framePushed frame answer, .frameReleased frame]) =
        Call.asked calls ++ [] := Call.asked_append rfl
    rw [List.append_nil] at hafter
    exact hafter
  constructor
  · simp [List.filterMap_cons, Call.handedOver?, Call.captured?, offered, hnone, hframes]
  · simp [List.filterMap_cons, Call.captured?, offered, hframes, Stats.add_def, hcount]
  · simp [List.filterMap_cons, Call.taken?, Stats.add_def, Stats.zero, h.encoded]
  · simp [Call.isAccepted, Stats.add_def, Stats.zero, h.sent]
  · simp [List.filterMap_cons, Call.sent?, Stats.add_def, Stats.zero, h.pushed]
  · rw [hasked, h.heard]
    simp [List.filterMap_cons, Call.heard?]
  · rw [hasked, ← h.played]
    simp [List.filterMap_cons, Call.played?]
  · simp [Call.isAudioAccepted, Stats.add_def, Stats.zero, h.audioSent]
  · rfl

/-- Every packet is sent at most once, in order. -/
theorem played_sublist {calls : List Call} {counts : Stats} (h : Balanced calls counts) :
    (calls.filterMap Call.played?).Sublist (calls.filterMap Call.heard?) := by
  rw [h.played, ← h.heard]
  exact List.filter_sublist.map Prod.fst

end Balanced

/-! ## Stations -/

/-- What was added to the log and to the counts. -/
structure Adds (before after : Worker × Script) (calls : List Call) (counts : Stats) : Prop where
  calls : after.2.calls = before.2.calls ++ calls
  stats : after.1.stats = before.1.stats + counts

theorem Adds.trans {x y z : Worker × Script} {a b : List Call} {m n : Stats}
    (hxy : Adds x y a m) (hyz : Adds y z b n) : Adds x z (a ++ b) (m + n) where
  calls := by rw [hyz.calls, hxy.calls, List.append_assoc]
  stats := by rw [hyz.stats, hxy.stats, Stats.add_assoc]

/-- What a worker does to pass an access unit on: it holds it back before the stream begins, finds
that the viewer has left, or sends it to a viewer who accepts or refuses it. -/
inductive Delivers : List Call → Stats → Prop
  | heldBack : Delivers [] .zero
  | missed : Delivers [.videoOpen false] .zero
  | accepted (data : Bytes) (time : Nat) :
    Delivers [.videoOpen true, .videoPushed data time (.ok ())] { Stats.zero with sent := 1 }
  | refused (data : Bytes) (time : Nat) (cause : Failure) :
    Delivers [.videoOpen true, .videoPushed data time (.error cause)]
      { Stats.zero with refused := 1 }

theorem Delivers.balanced {calls : List Call} {counts : Stats} (h : Delivers calls counts)
    (unit : AccessUnit) :
    Balanced (.unitPopped (.ok (some unit)) :: calls ++ [.unitReleased unit])
      ({ Stats.zero with encoded := 1 } + counts) := by
  cases h <;> constructor <;> rfl

theorem Delivers.captured {calls : List Call} {counts : Stats} (h : Delivers calls counts) :
    calls.filterMap Call.captured? = [] := by
  cases h <;> rfl

namespace Script

variable (w : Worker) (s : Script)

theorem calls_isVideoOpen : (stations.isVideoOpen s).2.calls =
    s.calls ++ [.videoOpen (stations.isVideoOpen s).1] := by
  simp only [stations]
  cases s.videoOpens <;> rfl

theorem exists_delivers_deliver (base : Nat) (unit : AccessUnit) :
    ∃ calls counts, Delivers calls counts ∧
      Adds (w, s) (w.deliver stations base unit s) calls counts := by
  let time := stations.now s
  let asked := stations.isVideoOpen time.2
  let ticks := timestamp (time.1 - base)
  let pushed := stations.pushVideo unit.concat ticks asked.2
  have hasked : asked.2.calls = s.calls ++ [.videoOpen asked.1] := calls_isVideoOpen time.2
  simp only [Worker.deliver]
  split_ifs with hopen
  · have hpushed : pushed.2.calls =
        s.calls ++ [.videoOpen true, .videoPushed unit.concat ticks pushed.1] := by
      have hnoted : pushed.2.calls = asked.2.calls ++ [.videoPushed unit.concat ticks pushed.1] :=
        rfl
      have hyes : asked.1 = true := hopen
      rw [hnoted, hasked, hyes, List.append_assoc]
      rfl
    cases hanswer : pushed.1 with
    | ok _ =>
      rw [hanswer] at hpushed
      exact ⟨_, _, .accepted unit.concat ticks, hpushed, rfl⟩
    | error cause =>
      rw [hanswer] at hpushed
      exact ⟨_, _, .refused unit.concat ticks cause, hpushed, rfl⟩
  · have hno : asked.1 = false := Bool.eq_false_iff.mpr hopen
    rw [hno] at hasked
    exact ⟨_, _, .missed, hasked, rfl⟩

theorem exists_delivers_forward (unit : AccessUnit) :
    ∃ calls counts, Delivers calls counts ∧
      Adds (w, s) (w.forward stations unit s) calls counts := by
  unfold Worker.forward
  split
  · exact exists_delivers_deliver w s _ unit
  · split_ifs
    · exact ⟨_, _, .heldBack, (List.append_nil _).symm, rfl⟩
    · let time := stations.now s
      obtain ⟨calls, counts, hdelivers, hadds⟩ :=
        exists_delivers_deliver { w with startedAt := some time.1 }
          (stations.publish .keyframeReady time.2) time.1 unit
      exact ⟨calls, counts, hdelivers, hadds.calls, hadds.stats⟩

/-- What the encoder has to give is taken and dealt with.  None of it has to do with frames. -/
theorem exists_balanced_unit :
    let popped := stations.popUnit s
    ∃ calls counts, Balanced calls counts ∧ calls.filterMap Call.captured? = [] ∧
      Adds (w, s) (w.handleUnit stations (offered popped.1) popped.2) calls counts := by
  intro popped
  have hnoted : popped.2.calls = s.calls ++ [.unitPopped popped.1] := rfl
  cases hpopped : offered popped.1 with
  | none => exact ⟨_, _, .unitPopped hpopped, rfl, hnoted, rfl⟩
  | some unit =>
    let counted : Worker := { w with stats := { w.stats with encoded := w.stats.encoded + 1 } }
    obtain ⟨calls, counts, hdelivers, hadds⟩ := exists_delivers_forward counted popped.2 unit
    rw [offered_eq_some_iff.mp hpopped] at hnoted
    refine ⟨_, _, hdelivers.balanced unit, ?_, ?_, ?_⟩
    · rw [List.filterMap_append, List.filterMap_cons_none rfl, hdelivers.captured]
      rfl
    · have hreleased : (w.handleUnit stations (some unit) popped.2).2.calls =
          (counted.forward stations unit popped.2).2.calls ++ [.unitReleased unit] := rfl
      rw [hreleased, hadds.calls, hnoted]
      simp
    · have hcounted : counted.stats = w.stats + { Stats.zero with encoded := 1 } := rfl
      rw [← Stats.add_assoc, ← hcounted]
      exact hadds.stats

theorem exists_adds_handleFrame (frame : Frame) :
    ∃ answer, Adds (w, s) (w.handleFrame stations (some frame) s)
      [.framePushed frame answer, .frameReleased frame] { Stats.zero with captured := 1 } :=
  ⟨(stations.pushFrame frame s).1, List.append_assoc s.calls [_] [_], rfl⟩

/-- Audio packets are taken until there are none, and each one balances. -/
theorem exists_balanced_drainAudio (turns : Nat) :
    ∃ calls counts, Balanced calls counts ∧
      Adds (w, s) (w.drainAudio stations turns s) calls counts := by
  induction turns generalizing w s with
  | zero => exact ⟨[], .zero, .nil, (List.append_nil _).symm, rfl⟩
  | succ turns ih =>
    let popped := stations.popAudio s
    let asked := stations.isAudioOpen popped.2
    have hnoted : popped.2.calls = s.calls ++ [.audioPopped popped.1] := rfl
    have hasked : asked.2.calls = s.calls ++ [.audioPopped popped.1, .audioOpen asked.1] :=
      List.append_assoc s.calls [_] [_]
    have hpushed (packet : AudioPacket) : (stations.pushAudio packet asked.2).2.calls =
        s.calls ++ [.audioPopped popped.1, .audioOpen asked.1,
          .audioPushed packet (stations.pushAudio packet asked.2).1] := by
      calc
        (stations.pushAudio packet asked.2).2.calls = asked.2.calls ++ [_] := rfl
        _ = _ := by rw [hasked, List.append_assoc]; rfl
    -- What is done about the first packet balances, and so does what is done after it.
    have hgoOn (after : Worker × Script) {calls : List Call} {counts : Stats}
        (hfirst : Balanced calls counts) (hadds : Adds (w, s) after calls counts) :
        ∃ calls counts, Balanced calls counts ∧
          Adds (w, s) (after.1.drainAudio stations turns after.2) calls counts := by
      obtain ⟨later, laterCounts, hbalanced, haddsLater⟩ := ih after.1 after.2
      exact ⟨_, _, hfirst.append hbalanced, hadds.trans haddsLater⟩
    simp only [Worker.drainAudio]
    cases hpopped : offered popped.1 with
    | none => exact ⟨_, _, .audioPopped hpopped, hnoted, rfl⟩
    | some packet =>
      rw [offered_eq_some_iff.mp hpopped] at hasked hpushed
      split_ifs with hopen
      · have hyes : asked.1 = true := hopen
        rw [hyes] at hpushed
        have hsent := hpushed packet
        let counted : Worker :=
          { w with stats := { w.stats with audioSent := w.stats.audioSent + 1 } }
        dsimp only
        split
        case h_1 hanswer =>
          have hok : (stations.pushAudio packet asked.2).1 = .ok () := hanswer
          rw [hok] at hsent
          exact hgoOn (counted, _) (.audioAccepted packet) ⟨hsent, rfl⟩
        case h_2 cause hanswer =>
          have herror : (stations.pushAudio packet asked.2).1 = .error cause := hanswer
          rw [herror] at hsent
          exact hgoOn (w, _) (.audioRefused packet cause) ⟨hsent, rfl⟩
      · have hno : asked.1 = false := Bool.eq_false_iff.mpr hopen
        rw [hno] at hasked
        exact hgoOn (w, _) (.audioMissed packet) ⟨hasked, rfl⟩

/-! ## Rounds -/

/-- One round balances. -/
theorem exists_balanced_step :
    ∃ calls counts, Balanced calls counts ∧ Adds (w, s) (w.step stations s) calls counts := by
  let asked := stations.isVideoOpen s
  have hasked : asked.2.calls = s.calls ++ [.videoOpen asked.1] := calls_isVideoOpen s
  by_cases hopen : asked.1 = true
  · let frame := stations.popFrame asked.2
    let popped := stations.popUnit frame.2
    let afterUnit := w.handleUnit stations (offered popped.1) popped.2
    have hframe : frame.2.calls = s.calls ++ [.videoOpen true, .framePopped frame.1] := by
      calc
        frame.2.calls = asked.2.calls ++ [.framePopped frame.1] := rfl
        _ = _ := by rw [hasked, hopen, List.append_assoc]; rfl
    have hstep : w.step stations s =
        let afterFrame := afterUnit.1.handleFrame stations (offered frame.1) afterUnit.2
        afterFrame.1.drainAudio stations (stations.audioTurns afterFrame.2) afterFrame.2 :=
      if_pos hopen
    obtain ⟨unitCalls, unitCounts, hunit, hnoFrame, haddsUnit⟩ := exists_balanced_unit w frame.2
    -- Up to the audio packets the round balances, whether there was a frame or not.
    have hvideo : ∃ calls counts, Balanced calls counts ∧
        Adds (w, s) (afterUnit.1.handleFrame stations (offered frame.1) afterUnit.2) calls
          counts := by
      cases hoffered : offered frame.1 with
      | none =>
        refine ⟨_, _, (Balanced.framePopped hoffered).append hunit, ?_, ?_⟩
        · rw [← List.append_assoc, ← hframe]
          exact haddsUnit.calls
        · rw [Stats.zero_add]
          exact haddsUnit.stats
      | some picture =>
        rw [offered_eq_some_iff.mp hoffered] at hframe
        obtain ⟨answer, haddsFrame⟩ := exists_adds_handleFrame afterUnit.1 afterUnit.2 picture
        refine ⟨_, _, hunit.around_frame hnoFrame picture answer, ?_, ?_⟩
        · rw [haddsFrame.calls, haddsUnit.calls, hframe]
          simp
        · rw [haddsFrame.stats, haddsUnit.stats, Stats.add_assoc]
    obtain ⟨videoCalls, videoCounts, hvideo, haddsVideo⟩ := hvideo
    obtain ⟨audioCalls, audioCounts, haudio, haddsAudio⟩ :=
      exists_balanced_drainAudio
        (afterUnit.1.handleFrame stations (offered frame.1) afterUnit.2).1
        (afterUnit.1.handleFrame stations (offered frame.1) afterUnit.2).2 _
    rw [hstep]
    exact ⟨_, _, hvideo.append haudio, haddsVideo.trans haddsAudio⟩
  · have hclosed : asked.1 = false := Bool.eq_false_iff.mpr hopen
    have hstep : w.step stations s = (w, asked.2) := if_neg hopen
    rw [hclosed] at hasked
    refine ⟨[.videoOpen false], .zero, ?_, ?_⟩
    · constructor <;> rfl
    · rw [hstep]
      exact ⟨hasked, rfl⟩

theorem exists_balanced_run (n : Nat) (x : Worker × Script) :
    ∃ calls counts, Balanced calls counts ∧ Adds x (Worker.run stations n x) calls counts := by
  induction n generalizing x with
  | zero => exact ⟨[], .zero, .nil, (List.append_nil _).symm, rfl⟩
  | succ n ih =>
    obtain ⟨first, firstCounts, hfirst, haddsFirst⟩ := exists_balanced_step x.1 x.2
    obtain ⟨later, laterCounts, hlater, haddsLater⟩ := ih (x.1.step stations x.2)
    exact ⟨_, _, hfirst.append hlater, haddsFirst.trans haddsLater⟩

/-! ## What is asked of camera and encoder -/

/-- The answers of camera and encoder that are still to come, and what they were asked so far. -/
def pops (s : Script) : List (Except Failure (Option Frame)) ×
    List (Except Failure (Option AccessUnit)) × List Call :=
  (s.frames, s.units, s.calls.filter Call.isPop)

/-- What camera and encoder are asked and are to answer for the `i`-th time. -/
def popsAt (s : Script) (i : Nat) : List Call :=
  [.framePopped (s.frames[i]?.getD (.ok none)), .unitPopped (s.units[i]?.getD (.ok none))]

theorem pops_isVideoOpen : (stations.isVideoOpen s).2.pops = s.pops := by
  simp only [stations]
  cases s.videoOpens <;> simp [pops, note, Call.isPop]

theorem pops_deliver (base : Nat) (unit : AccessUnit) :
    (w.deliver stations base unit s).2.pops = s.pops := by
  have hasked := pops_isVideoOpen (stations.now s).2
  have hpushed (data : Bytes) (ticks : Nat) (s : Script) :
      (stations.pushVideo data ticks s).2.pops = s.pops := by
    simp [stations, pops, note, Call.isPop]
  unfold Worker.deliver
  dsimp only
  split_ifs
  · split <;> exact (hpushed _ _ _).trans hasked
  · exact hasked

theorem pops_handleUnit (unit : Option AccessUnit) :
    (w.handleUnit stations unit s).2.pops = s.pops := by
  cases unit with
  | none => rfl
  | some unit =>
    have hforward (w : Worker) : (w.forward stations unit s).2.pops = s.pops := by
      unfold Worker.forward
      split
      · exact pops_deliver w s _ unit
      · split_ifs
        · rfl
        · exact pops_deliver _ (stations.publish .keyframeReady (stations.now s).2) _ unit
    have hreleased (s : Script) : (stations.releaseUnit unit s).pops = s.pops := by
      simp [stations, pops, note, Call.isPop]
    exact (hreleased _).trans (hforward _)

theorem pops_handleFrame (frame : Option Frame) :
    (w.handleFrame stations frame s).2.pops = s.pops := by
  cases frame <;> simp [Worker.handleFrame, stations, pops, note, Call.isPop]

theorem pops_drainAudio (turns : Nat) : (w.drainAudio stations turns s).2.pops = s.pops := by
  induction turns generalizing w s with
  | zero => rfl
  | succ turns ih =>
    have hpopped : (stations.popAudio s).2.pops = s.pops := by
      simp [stations, pops, note, Call.isPop]
    have hasked (s : Script) : (stations.isAudioOpen s).2.pops = s.pops := by
      simp [stations, pops, note, Call.isPop]
    have hpushed (packet : AudioPacket) (s : Script) :
        (stations.pushAudio packet s).2.pops = s.pops := by
      simp [stations, pops, note, Call.isPop]
    unfold Worker.drainAudio
    dsimp only
    split
    · exact hpopped
    · split_ifs
      · split <;> exact (ih _ _).trans ((hpushed _ _).trans ((hasked _).trans hpopped))
      · exact (ih _ _).trans ((hasked _).trans hpopped)

/-- A round asks camera and encoder once each, as long as the viewer accepts video. -/
theorem pops_step : (w.step stations s).2.pops =
    if (stations.isVideoOpen s).1 then
      (s.frames.tail, s.units.tail, s.calls.filter Call.isPop ++ s.popsAt 0)
    else s.pops := by
  let asked := (stations.isVideoOpen s).2
  let popped := (stations.popUnit (stations.popFrame asked).2).2
  have hasked : asked.pops = s.pops := pops_isVideoOpen s
  have hpopped : popped.pops =
      (asked.frames.tail, asked.units.tail, asked.calls.filter Call.isPop ++ asked.popsAt 0) := by
    simp [popped, stations, pops, popsAt, note, Call.isPop, List.filter_append, List.filter_cons,
      List.head?_eq_getElem?]
  simp only [pops, Prod.mk.injEq] at hasked
  obtain ⟨hframes, hunits, hcalls⟩ := hasked
  rw [popsAt, hframes, hunits, hcalls] at hpopped
  unfold Worker.step
  dsimp only
  split_ifs
  · exact (pops_drainAudio _ _ _).trans ((pops_handleFrame _ _ _).trans
      ((pops_handleUnit _ _ _).trans hpopped))
  · exact pops_isVideoOpen s

theorem isOpen_step : ((w.step stations s).2.log.since s.log).isOpen =
    (stations.isVideoOpen s).1 := by
  rw [log_of_state (state_step w s), Round.since_append, isVideoOpen_fst w s]
  exact (state (w, s)).1.isOpen_next

/-- In every round in which the viewer accepts video camera and encoder are asked for what they are
to answer next. -/
theorem pops_run (n : Nat) (x : Worker × Script) :
    (Worker.run stations n x).2.calls.filter Call.isPop = x.2.calls.filter Call.isPop ++
      (List.range ((roundsFrom n x).countP Round.isOpen)).flatMap x.2.popsAt := by
  induction n generalizing x with
  | zero => simp [roundsFrom]
  | succ n ih =>
    obtain ⟨w, s⟩ := x
    have hpops := pops_step w s
    rw [Worker.run_succ, ih, roundsFrom, List.countP_cons, isOpen_step]
    generalize w.step stations s = after at *
    split_ifs at hpops ⊢ with hopen
    · simp only [pops, Prod.mk.injEq] at hpops
      obtain ⟨hframes, hunits, hcalls⟩ := hpops
      have hlater : ∀ i, after.2.popsAt i = s.popsAt (i + 1) := by
        intro i
        rw [popsAt, popsAt, hframes, hunits, List.getElem?_tail, List.getElem?_tail]
      rw [hcalls, List.range_succ_eq_map, List.flatMap_cons, List.flatMap_map, List.append_assoc,
        funext hlater]
    · simp only [pops, Prod.mk.injEq] at hpops
      obtain ⟨hframes, hunits, hcalls⟩ := hpops
      have hlater : after.2.popsAt = s.popsAt := by
        funext i
        rw [popsAt, popsAt, hframes, hunits]
      rw [hcalls, hlater, Nat.add_zero]

/-- What a worker accounts for, after any number of rounds of any script.  In every round in which
the viewer accepts video, and in no other, camera and encoder are asked once each, and answer what
they are to answer next.  Every frame taken from the camera was handed to the encoder, once and in
order.  Every audio packet that was taken was sent to the viewer if it said right then that it
accepts audio, once and in order, and otherwise not.  The counts are those of the log.  A round in
which the viewer does not accept video adds that answer to the log and nothing to the counts. -/
theorem run_balanced (s : Script) (n : Nat) :
    let x := Worker.run stations n (.fresh, s)
    ∃ calls, x.2.calls = s.calls ++ calls ∧
      calls.filter Call.isPop =
        (List.range ((s.rounds n).countP Round.isOpen)).flatMap s.popsAt ∧
      Balanced calls x.1.stats ∧
      (calls.filterMap Call.played?).Sublist (calls.filterMap Call.heard?) ∧
      ((stations.isVideoOpen x.2).1 = false →
        let after := Worker.run stations (n + 1) (.fresh, s)
        after.2.calls = s.calls ++ calls ++ [.videoOpen false] ∧ after.1.stats = x.1.stats) := by
  intro x
  obtain ⟨calls, counts, hbalanced, hadds⟩ := exists_balanced_run n (.fresh, s)
  have hcounts : x.1.stats = counts := by
    rw [← counts.zero_add]
    exact hadds.stats
  have hpops := pops_run n (.fresh, s)
  rw [hadds.calls, List.filter_append] at hpops
  refine ⟨calls, hadds.calls, List.append_cancel_left hpops, hcounts ▸ hbalanced,
    hbalanced.played_sublist, ?_⟩
  intro hclosed after
  have hafter : after = (x.1, (stations.isVideoOpen x.2).2) := by
    have hopen : ¬(stations.isVideoOpen x.2).1 = true := Bool.eq_false_iff.mp hclosed
    calc
      after = x.1.step stations x.2 := Worker.run_add stations n 1 (.fresh, s)
      _ = _ := if_neg hopen
  have hcalls : after.2.calls = x.2.calls ++ [.videoOpen false] := by
    rw [hafter, calls_isVideoOpen, hclosed]
  rw [hadds.calls] at hcalls
  exact ⟨hcalls, congrArg (·.1.stats) hafter⟩

end Script

end LiveCamera.Pipeline
