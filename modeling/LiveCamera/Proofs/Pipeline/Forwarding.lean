import LiveCamera.Pipeline.Script
import Mathlib.Data.List.Flatten
import Mathlib.Data.List.TakeWhile
import Mathlib.Tactic.SplitIfs

/-!
# What a worker forwards

A worker that plays a script is known by its log: what the viewer was asked, what was taken from the
encoder, what was sent, and what was announced.  `Script.rounds` cuts the log into rounds.

Camera and audio, and whether the viewer accepts what it is sent, have no say in it.  `Outlook` is
what is left of a worker and its script without them, and a round of the worker is a round of its
outlook (`state_step`).  So `forwarded_in_order` needs to look at outlooks only.
-/

namespace LiveCamera.Pipeline

/-! ## Rounds -/

namespace Call

/-- What the viewer answered when it was asked whether it accepts video. -/
def viewing? : Call → Option Bool
  | videoOpen answer => some answer
  | _ => none

/-- The access unit that the encoder had to give. -/
def taken? : Call → Option AccessUnit
  | unitPopped answer => offered answer
  | _ => none

/-- The video sent to the viewer, with its timestamp. -/
def sent? : Call → Option (Bytes × Nat)
  | videoPushed data timestamp _ => some (data, timestamp)
  | _ => none

end Call

/-- What a worker did about video, over one round or several. -/
structure Round where
  viewing : List Bool
  taken : List AccessUnit
  sent : List (Bytes × Nat)
  events : List StreamEvent
  deriving DecidableEq

namespace Round

/-- Whether an access unit was taken with which decoding can start. -/
def isStart (r : Round) : Bool := r.taken.any fun unit ↦ 1 < unit.count

/-- Whether the viewer was asked, and accepted video. -/
def isOpen (r : Round) : Bool := r.viewing.head? == some true

/-- Whether the viewer was asked a second time, and still accepted video. -/
def isStillOpen (r : Round) : Bool := r.viewing[1]? == some true

def empty : Round := ⟨[], [], [], []⟩

instance : Append Round where
  append a b := ⟨a.viewing ++ b.viewing, a.taken ++ b.taken, a.sent ++ b.sent, a.events ++ b.events⟩

/-- What was done after `earlier`. -/
def since (all earlier : Round) : Round where
  viewing := all.viewing.drop earlier.viewing.length
  taken := all.taken.drop earlier.taken.length
  sent := all.sent.drop earlier.sent.length
  events := all.events.drop earlier.events.length

variable (a b c : Round)

theorem append_def : a ++ b =
    ⟨a.viewing ++ b.viewing, a.taken ++ b.taken, a.sent ++ b.sent, a.events ++ b.events⟩ := rfl

@[simp] theorem sent_append : (a ++ b).sent = a.sent ++ b.sent := rfl

theorem append_assoc : a ++ b ++ c = a ++ (b ++ c) := by
  simp [append_def]

theorem append_empty : a ++ empty = a := by
  simp [append_def, empty]

theorem since_append : (a ++ b).since a = b := by
  simp [since, append_def]

end Round

namespace Script

/-- What the log of a script says about video. -/
def log (s : Script) : Round where
  viewing := s.calls.filterMap Call.viewing?
  taken := s.calls.filterMap Call.taken?
  sent := s.calls.filterMap Call.sent?
  events := s.events

/-- The rounds of a worker that plays a script. -/
def roundsFrom : Nat → Worker × Script → List Round
  | 0, _ => []
  | n + 1, state =>
    let after := state.1.step stations state.2
    after.2.log.since state.2.log :: roundsFrom n after

/-- The first `n` rounds of a script. -/
def rounds (s : Script) (n : Nat) : List Round := roundsFrom n (.fresh, s)

/-- What the viewer is to answer when it is asked for the `i`-th time whether it accepts video. -/
def isOpenAt (s : Script) (i : Nat) : Bool := s.videoOpens[i]?.getD false

/-- What the encoder is to offer when it is asked for the `i`-th time. -/
def unitAt? (s : Script) (i : Nat) : Option AccessUnit := offered (s.units[i]?.getD (.ok none))

end Script

/-- What a script decides about a round, with the rounds before it.  The viewer is asked first.  If
it accepts video the encoder is asked, and if that has an access unit to give and the stream has
begun, with this one or before, the viewer is asked again.  Each of them answers as it is to answer
next. -/
structure Round.Follows (r : Round) (s : Script) (earlier : List Round) : Prop where
  viewing : r.viewing = s.isOpenAt (earlier.flatMap viewing).length ::
    if r.taken ≠ [] ∧ (earlier ++ [r]).any isStart = true then
      [s.isOpenAt ((earlier.flatMap viewing).length + 1)]
    else []
  taken : r.taken =
    if r.isOpen then (s.unitAt? (earlier.countP isOpen)).toList else []

/-! ## Outlooks -/

/-- What decides about video: the time at which the stream began, and the answers to come. -/
structure Outlook where
  startedAt : Option Nat
  videoOpens : List Bool
  units : List (Except Failure (Option AccessUnit))
  times : List Nat

namespace Outlook

/-- The viewer's next answer. -/
def isOpen (o : Outlook) : Bool := o.videoOpens.head?.getD false

def afterOpen (o : Outlook) : Outlook := { o with videoOpens := o.videoOpens.tail }

def time (o : Outlook) : Nat := o.times.head?.getD 0

def afterTime (o : Outlook) : Outlook := { o with times := o.times.tail }

/-- What the encoder offers next. -/
def unit? (o : Outlook) : Option AccessUnit := offered (o.units.head?.getD (.ok none))

def afterUnit (o : Outlook) : Outlook := { o with units := o.units.tail }

/-- Sends an access unit of a stream that began at `base`, if the viewer is still there. -/
def deliver (o : Outlook) (base : Nat) (unit : AccessUnit) : Round × Outlook :=
  let sent := if o.isOpen then [(unit.concat, timestamp (o.time - base))] else []
  (⟨[o.isOpen], [], sent, []⟩, o.afterTime.afterOpen)

/-- The stream begins. -/
def begin (o : Outlook) : Outlook := { o.afterTime with startedAt := some o.time }

/-- Passes an access unit on, once there was one with which decoding can start. -/
def forward (o : Outlook) (unit : AccessUnit) : Round × Outlook :=
  match o.startedAt with
  | some base => o.deliver base unit
  | none =>
    if unit.count ≤ 1 then (.empty, o)
    else
      let delivered := o.begin.deliver o.time unit
      (⟨[], [], [], [.keyframeReady]⟩ ++ delivered.1, delivered.2)

/-- One round, and what comes after it. -/
def next (o : Outlook) : Round × Outlook :=
  if o.isOpen then
    match o.unit? with
    | none => (⟨[true], [], [], []⟩, o.afterOpen.afterUnit)
    | some unit =>
      let forwarded := o.afterOpen.afterUnit.forward unit
      (⟨[true], [unit], [], []⟩ ++ forwarded.1, forwarded.2)
  else (⟨[false], [], [], []⟩, o.afterOpen)

def rounds : Nat → Outlook → List Round
  | 0, _ => []
  | n + 1, o => o.next.1 :: rounds n o.next.2

end Outlook

namespace Script

/-- The outlook of a worker and its script, and what the log says so far. -/
def state (x : Worker × Script) : Outlook × Round :=
  (⟨x.1.startedAt, x.2.videoOpens, x.2.units, x.2.times⟩, x.2.log)

theorem log_of_state {x : Worker × Script} {o : Outlook} {r : Round} (h : state x = (o, r)) :
    x.2.log = r :=
  congrArg Prod.snd h

variable (w : Worker) (s : Script)

/-! ## One round -/

theorem isVideoOpen_fst : (stations.isVideoOpen s).1 = (state (w, s)).1.isOpen := by
  simp only [stations, state, Outlook.isOpen]
  cases s.videoOpens <;> rfl

theorem state_isVideoOpen : state (w, (stations.isVideoOpen s).2) =
    ((state (w, s)).1.afterOpen, s.log ++ ⟨[(state (w, s)).1.isOpen], [], [], []⟩) := by
  simp only [stations, state, Outlook.afterOpen, Outlook.isOpen]
  cases s.videoOpens <;>
    simp [note, log, Call.viewing?, Call.taken?, Call.sent?, Round.append_def]

theorem state_popFrame : state (w, (stations.popFrame s).2) = state (w, s) := by
  simp [stations, state, note, log, Call.viewing?, Call.taken?, Call.sent?]

theorem state_popUnit : state (w, (stations.popUnit s).2) =
    ((state (w, s)).1.afterUnit, s.log ++ ⟨[], (state (w, s)).1.unit?.toList, [], []⟩) := by
  cases h : offered (s.units.head?.getD (.ok none)) <;>
    simp [stations, state, note, log, Call.viewing?, Call.taken?, Call.sent?, Round.append_def,
      Outlook.afterUnit, Outlook.unit?, h]

/-- Asking the camera and then the encoder is asking the encoder. -/
theorem state_pops : state (w, (stations.popUnit (stations.popFrame s).2).2) =
    ((state (w, s)).1.afterUnit, s.log ++ ⟨[], (state (w, s)).1.unit?.toList, [], []⟩) := by
  have hframe := state_popFrame w s
  have hunit := state_popUnit w (stations.popFrame s).2
  rwa [log_of_state hframe, hframe] at hunit

theorem state_pushVideo (data : Bytes) (ticks : Nat) :
    state (w, (stations.pushVideo data ticks s).2) =
      ((state (w, s)).1, s.log ++ ⟨[], [], [(data, ticks)], []⟩) := by
  simp [stations, state, note, log, Call.viewing?, Call.taken?, Call.sent?, Round.append_def]

theorem state_handleFrame (frame : Option Frame) :
    state (w.handleFrame stations frame s) = state (w, s) := by
  cases frame <;>
    simp [Worker.handleFrame, stations, state, note, log, Call.viewing?, Call.taken?, Call.sent?]

theorem state_drainAudio (turns : Nat) :
    state (w.drainAudio stations turns s) = state (w, s) := by
  induction turns generalizing w s with
  | zero => rfl
  | succ turns ih =>
    have hpopped : state (w, (stations.popAudio s).2) = state (w, s) := by
      simp [stations, state, note, log, Call.viewing?, Call.taken?, Call.sent?]
    have hasked (s : Script) : state (w, (stations.isAudioOpen s).2) = state (w, s) := by
      simp [stations, state, note, log, Call.viewing?, Call.taken?, Call.sent?]
    have hpushed (packet : AudioPacket) (s : Script) :
        state (w, (stations.pushAudio packet s).2) = state (w, s) := by
      simp [stations, state, note, log, Call.viewing?, Call.taken?, Call.sent?]
    unfold Worker.drainAudio
    dsimp only
    split
    · exact hpopped
    · split_ifs
      · split
        · exact (ih _ _).trans ((hpushed _ _).trans ((hasked _).trans hpopped))
        · exact (ih _ _).trans ((hpushed _ _).trans ((hasked _).trans hpopped))
      · exact (ih _ _).trans ((hasked _).trans hpopped)

theorem state_deliver (base : Nat) (unit : AccessUnit) :
    let delivered := (state (w, s)).1.deliver base unit
    state (w.deliver stations base unit s) = (delivered.2, s.log ++ delivered.1) := by
  intro delivered
  let timed := (stations.now s).2
  let asked := stations.isVideoOpen timed
  let sent := stations.pushVideo unit.concat (timestamp ((stations.now s).1 - base)) asked.2
  have hanswer : asked.1 = (state (w, s)).1.isOpen := isVideoOpen_fst w timed
  have hasked : state (w, asked.2) =
      ((state (w, s)).1.afterTime.afterOpen, s.log ++ ⟨[asked.1], [], [], []⟩) := by
    rw [hanswer]
    exact state_isVideoOpen w timed
  have hsent := state_pushVideo w asked.2 unit.concat (timestamp ((stations.now s).1 - base))
  simp only [delivered, Worker.deliver, Outlook.deliver]
  rw [← hanswer]
  split_ifs with hopen
  -- The worker counts what the viewer says to the access unit, and sends on as before.
  · have hafter : state (w, sent.2) = ((state (w, s)).1.afterTime.afterOpen,
        s.log ++ ⟨[asked.1], [], [(unit.concat, timestamp ((stations.now s).1 - base))], []⟩) := by
      rw [hsent, hasked, log_of_state hasked, Round.append_assoc]
      rfl
    split <;> exact hafter
  · exact hasked

theorem state_forward (unit : AccessUnit) :
    let forwarded := (state (w, s)).1.forward unit
    state (w.forward stations unit s) = (forwarded.2, s.log ++ forwarded.1) := by
  intro forwarded
  rcases hstarted : w.startedAt with _ | base
  · by_cases hcount : unit.count ≤ 1
    · have hforwarded : forwarded = (.empty, (state (w, s)).1) := by
        simp only [forwarded, Outlook.forward, state, hstarted, if_pos hcount]
      simp only [Worker.forward, hstarted, if_pos hcount]
      rw [hforwarded, Round.append_empty]
      rfl
    · let time := stations.now s
      let begun : Worker := { w with startedAt := some time.1 }
      let announced := stations.publish .keyframeReady time.2
      have hannounced : state (begun, announced) =
          ((state (w, s)).1.begin, s.log ++ ⟨[], [], [], [.keyframeReady]⟩) := by
        simp [announced, begun, time, state, log, stations, Round.append_def, Outlook.begin,
          Outlook.afterTime, Outlook.time]
      have hdelivered := state_deliver begun announced time.1 unit
      have hforwarded : forwarded =
          let delivered := (state (begun, announced)).1.deliver time.1 unit
          (⟨[], [], [], [.keyframeReady]⟩ ++ delivered.1, delivered.2) := by
        rw [hannounced]
        simp only [forwarded, Outlook.forward, state, hstarted, if_neg hcount]
        rfl
      simp only [Worker.forward, hstarted, if_neg hcount]
      rw [hforwarded]
      refine hdelivered.trans ?_
      rw [log_of_state hannounced, Round.append_assoc]
  · have hforwarded : forwarded = (state (w, s)).1.deliver base unit := by
      simp only [forwarded, Outlook.forward, state, hstarted]
    simp only [Worker.forward, hstarted]
    rw [hforwarded]
    exact state_deliver w s base unit

theorem state_handleUnit (unit : AccessUnit) :
    let forwarded := (state (w, s)).1.forward unit
    state (w.handleUnit stations (some unit) s) = (forwarded.2, s.log ++ forwarded.1) := by
  intro forwarded
  let counted : Worker := { w with stats := { w.stats with encoded := w.stats.encoded + 1 } }
  let passed := counted.forward stations unit s
  have hreleased : state (w.handleUnit stations (some unit) s) = state passed := by
    simp [Worker.handleUnit, stations, state, note, log, Call.viewing?, Call.taken?, Call.sent?,
      passed, counted]
  rw [hreleased]
  exact state_forward counted s unit

/-- A round of a worker is a round of its outlook. -/
theorem state_step :
    let next := (state (w, s)).1.next
    state (w.step stations s) = (next.2, s.log ++ next.1) := by
  intro next
  let asked := stations.isVideoOpen s
  have hanswer : asked.1 = (state (w, s)).1.isOpen := isVideoOpen_fst w s
  have hasked : state (w, asked.2) =
      ((state (w, s)).1.afterOpen, s.log ++ ⟨[asked.1], [], [], []⟩) := by
    rw [hanswer]
    exact state_isVideoOpen w s
  by_cases hopen : asked.1 = true
  · let frame := stations.popFrame asked.2
    let popped := stations.popUnit frame.2
    let outlook := (state (w, s)).1.afterOpen
    rw [hopen] at hasked
    have hpopped : state (w, popped.2) =
        (outlook.afterUnit, s.log ++ (⟨[true], outlook.unit?.toList, [], []⟩ : Round)) := by
      have hpops := state_pops w asked.2
      rwa [log_of_state hasked, hasked, Round.append_assoc] at hpops
    have hoffered : offered popped.1 = outlook.unit? := congrArg (·.1.unit?) hasked
    let afterUnit := w.handleUnit stations outlook.unit? popped.2
    -- What comes after the access unit has to do with frames and audio only.
    have hbeside : state (w.step stations s) = state afterUnit := by
      have hstep : w.step stations s =
          let afterFrame :=
            (w.handleUnit stations (offered popped.1) popped.2).1.handleFrame stations
              (offered frame.1) (w.handleUnit stations (offered popped.1) popped.2).2
          afterFrame.1.drainAudio stations (stations.audioTurns afterFrame.2) afterFrame.2 :=
        if_pos hopen
      rw [hstep, state_drainAudio, hoffered]
      exact state_handleFrame afterUnit.1 afterUnit.2 (offered frame.1)
    have hnext : next = match outlook.unit? with
        | none => (⟨[true], [], [], []⟩, outlook.afterUnit)
        | some unit => (⟨[true], [unit], [], []⟩ ++ (outlook.afterUnit.forward unit).1,
          (outlook.afterUnit.forward unit).2) :=
      if_pos (hanswer ▸ hopen)
    rw [hbeside, hnext]
    cases hunit : outlook.unit? with
    | none =>
      simp only [afterUnit, hunit]
      rw [hunit] at hpopped
      exact hpopped
    | some unit =>
      simp only [afterUnit, hunit]
      rw [hunit] at hpopped
      have hforwarded := state_handleUnit w popped.2 unit
      rw [log_of_state hpopped, hpopped] at hforwarded
      rw [← Round.append_assoc]
      exact hforwarded
  · have hclosed : asked.1 = false := Bool.eq_false_iff.mpr hopen
    have hstep : w.step stations s = (w, asked.2) := if_neg hopen
    have hnext : next = (⟨[false], [], [], []⟩, (state (w, s)).1.afterOpen) := by
      rw [hanswer] at hclosed
      simp only [next, Outlook.next, hclosed]
      rfl
    rw [hstep, hasked, hnext, hclosed]

end Script

/-! ## Rounds of an outlook -/

/-- What a round comes to, and whether the stream has begun before and after it. -/
structure Round.Passes (r : Round) (before after : Bool) : Prop where
  taken : r.taken.length ≤ 1
  begun : after = (before || r.isStart)
  events : r.events = if before = false ∧ r.isStart = true then [.keyframeReady] else []
  sent : r.sent.map Prod.fst =
    if (before || r.isStart) && r.isStillOpen then r.taken.map AccessUnit.concat else []

/-- No round is left out of a stream that has begun. -/
theorem Round.dropWhile_begun (rounds : List Round) :
    rounds.dropWhile (fun r ↦ !(true || r.isStart)) = rounds :=
  List.dropWhile_eq_self_iff.mpr (by simp)

namespace Outlook

variable (o : Outlook)

def hasBegun (o : Outlook) : Bool := o.startedAt.isSome

theorem hasBegun_deliver (base : Nat) (unit : AccessUnit) :
    (o.deliver base unit).2.hasBegun = o.hasBegun := rfl

theorem sent_deliver (base : Nat) (unit : AccessUnit) :
    (o.deliver base unit).1.sent.map Prod.fst = if o.isOpen then [unit.concat] else [] := by
  unfold deliver
  split_ifs <;> rfl

theorem passes_forward (unit : AccessUnit) :
    let forwarded := o.forward unit
    (⟨[true], [unit], [], []⟩ ++ forwarded.1 : Round).Passes o.hasBegun forwarded.2.hasBegun := by
  intro forwarded
  rcases hstarted : o.startedAt with _ | base
  · have hbefore : o.hasBegun = false := by simp [hasBegun, hstarted]
    by_cases hcount : unit.count ≤ 1
    · have hforwarded : forwarded = (.empty, o) := by
        simp only [forwarded, forward, hstarted, if_pos hcount]
      have hstart : ¬1 < unit.count := Nat.not_lt.mpr hcount
      rw [hforwarded, hbefore, Round.append_empty]
      constructor <;> simp [Round.isStart, hstart]
    · have hforwarded : forwarded = (⟨[], [], [], [.keyframeReady]⟩ ++
          (o.begin.deliver o.time unit).1, (o.begin.deliver o.time unit).2) := by
        simp only [forwarded, forward, hstarted, if_neg hcount]
      have hstart : 1 < unit.count := Nat.not_le.mp hcount
      have hsent := o.begin.sent_deliver o.time unit
      have hbegun : o.begin.hasBegun = true := rfl
      rw [hforwarded, hbefore, hasBegun_deliver, hbegun]
      constructor
      · simp [Round.append_def, deliver]
      · simp [Round.append_def, Round.isStart, hstart]
      · simp [Round.append_def, Round.isStart, hstart, deliver]
      · rw [Round.sent_append, Round.sent_append, List.nil_append, List.nil_append, hsent]
        simp [Round.append_def, Round.isStart, Round.isStillOpen, hstart, deliver]
  · have hbefore : o.hasBegun = true := by simp [hasBegun, hstarted]
    have hforwarded : forwarded = o.deliver base unit := by
      simp only [forwarded, forward, hstarted]
    have hsent := o.sent_deliver base unit
    rw [hforwarded, hasBegun_deliver, hbefore]
    constructor
    · simp [Round.append_def, deliver]
    · simp
    · simp [Round.append_def, deliver]
    · rw [Round.sent_append, List.nil_append, hsent]
      simp [Round.append_def, Round.isStillOpen, deliver]

theorem passes : o.next.1.Passes o.hasBegun o.next.2.hasBegun := by
  unfold next
  split_ifs with hopen
  · cases hunit : o.unit? with
    | none =>
      constructor <;> simp [Round.isStart, Round.isStillOpen, hasBegun, afterOpen, afterUnit]
    | some unit => exact o.afterOpen.afterUnit.passes_forward unit
  · constructor <;> simp [Round.isStart, Round.isStillOpen, hasBegun, afterOpen]

/-- Every round passes, from wherever the rounds before it have led. -/
theorem exists_passes_of_mem_rounds {n : Nat} {round : Round} (h : round ∈ o.rounds n) :
    ∃ before after, round.Passes before after := by
  induction n generalizing o with
  | zero => cases h
  | succ n ih =>
    rcases List.mem_cons.mp h with rfl | h
    · exact ⟨_, _, o.passes⟩
    · exact ih o.next.2 h

/-- The viewer is asked about an access unit of a stream that has begun, and nobody else is. -/
theorem uses_forward (unit : AccessUnit) :
    let forwarded := o.forward unit
    forwarded.1.viewing = (if (o.hasBegun || decide (1 < unit.count)) = true then [o.isOpen]
      else []) ∧
    forwarded.1.taken = [] ∧
    forwarded.2.videoOpens = o.videoOpens.drop forwarded.1.viewing.length ∧
    forwarded.2.units = o.units := by
  intro forwarded
  rcases hstarted : o.startedAt with _ | base
  · have hbefore : o.hasBegun = false := by simp [hasBegun, hstarted]
    by_cases hcount : unit.count ≤ 1
    · have hforwarded : forwarded = (.empty, o) := by
        simp only [forwarded, forward, hstarted, if_pos hcount]
      have hstart : ¬1 < unit.count := Nat.not_lt.mpr hcount
      rw [hforwarded]
      simp [hbefore, hstart, Round.empty]
    · have hforwarded : forwarded = (⟨[], [], [], [.keyframeReady]⟩ ++
          (o.begin.deliver o.time unit).1, (o.begin.deliver o.time unit).2) := by
        simp only [forwarded, forward, hstarted, if_neg hcount]
      rw [hforwarded, if_pos (by simpa using Or.inr (Nat.not_le.mp hcount))]
      exact ⟨rfl, rfl, List.drop_one.symm, rfl⟩
  · have hbefore : o.hasBegun = true := by simp [hasBegun, hstarted]
    have hforwarded : forwarded = o.deliver base unit := by
      simp only [forwarded, forward, hstarted]
    rw [hforwarded, hbefore, Bool.true_or, if_pos rfl]
    exact ⟨rfl, rfl, List.drop_one.symm, rfl⟩

/-- What a round uses up of the answers to come. -/
theorem uses :
    o.next.1.viewing = o.isOpen ::
      (if o.next.1.taken ≠ [] ∧ (o.hasBegun || o.next.1.isStart) = true then [o.afterOpen.isOpen]
      else []) ∧
    o.next.1.taken = (if o.isOpen then o.unit?.toList else []) ∧
    o.next.2.videoOpens = o.videoOpens.drop o.next.1.viewing.length ∧
    o.next.2.units = o.units.drop (if o.isOpen then 1 else 0) := by
  by_cases hopen : o.isOpen = true
  · cases hunit : o.unit? with
    | none =>
      have hnext : o.next = (⟨[true], [], [], []⟩, o.afterOpen.afterUnit) := by
        simp only [next, hopen, if_true, hunit]
      rw [hnext, hopen]
      simp [afterOpen, afterUnit]
    | some unit =>
      have hnext : o.next = (⟨[true], [unit], [], []⟩ ++ (o.afterOpen.afterUnit.forward unit).1,
          (o.afterOpen.afterUnit.forward unit).2) := by
        simp only [next, hopen, if_true, hunit]
      obtain ⟨hviewing, htaken, hvideoOpens, hunits⟩ := o.afterOpen.afterUnit.uses_forward unit
      have hlength : (⟨[true], [unit], [], []⟩ ++ (o.afterOpen.afterUnit.forward unit).1 :
          Round).viewing.length = 1 + (o.afterOpen.afterUnit.forward unit).1.viewing.length := by
        simp [Round.append_def, Nat.add_comm]
      have htakes : (⟨[true], [unit], [], []⟩ ++ (o.afterOpen.afterUnit.forward unit).1 :
          Round).taken = [unit] := congrArg (unit :: ·) htaken
      rw [hnext, hopen]
      refine ⟨?_, htakes, ?_, hunits.trans List.drop_one.symm⟩
      · rw [Round.isStart, htakes, List.any_cons, List.any_nil, Bool.or_false]
        have hcond : ([unit] ≠ [] ∧ (o.hasBegun || decide (1 < unit.count)) = true) =
            ((o.hasBegun || decide (1 < unit.count)) = true) := by simp
        simp only [hcond]
        exact congrArg (true :: ·) hviewing
      · rw [hvideoOpens, hlength, ← List.drop_drop, List.drop_one]
        rfl
  · have hnext : o.next = (⟨[false], [], [], []⟩, o.afterOpen) := if_neg hopen
    rw [hnext, Bool.eq_false_iff.mpr hopen]
    simp [afterOpen]

theorem isOpen_next : o.next.1.isOpen = o.isOpen := by
  obtain ⟨hviewing, -⟩ := o.uses
  rw [Round.isOpen, hviewing, List.head?_cons]
  cases o.isOpen <;> rfl

/-- Where the rounds of an outlook have led. -/
structure Reached (o : Outlook) (earlier : List Round) (now : Outlook) : Prop where
  videoOpens : now.videoOpens = o.videoOpens.drop (earlier.flatMap Round.viewing).length
  units : now.units = o.units.drop (earlier.countP Round.isOpen)
  hasBegun : now.hasBegun = (o.hasBegun || earlier.any Round.isStart)

variable {o}

theorem Reached.next {earlier : List Round} {now : Outlook} (h : o.Reached earlier now) :
    o.Reached (earlier ++ [now.next.1]) now.next.2 := by
  obtain ⟨-, -, hvideoOpens, hunits⟩ := now.uses
  constructor
  · rw [hvideoOpens, h.videoOpens, List.drop_drop, List.flatMap_append, List.length_append]
    simp
  · rw [hunits, h.units, List.drop_drop, List.countP_append, List.countP_singleton,
      now.isOpen_next]
  · rw [now.passes.begun, h.hasBegun, List.any_append, Bool.or_assoc]
    simp

/-- Every round comes next after those before it. -/
theorem Reached.exists_later {n k : Nat} {earlier : List Round} {now : Outlook} {round : Round}
    (h : o.Reached earlier now) (hround : (now.rounds n)[k]? = some round) :
    ∃ later, o.Reached (earlier ++ (now.rounds n).take k) later ∧ later.next.1 = round := by
  induction n generalizing earlier now k with
  | zero => cases hround
  | succ n ih =>
    cases k with
    | zero =>
      obtain rfl : now.next.1 = round := by simpa [rounds] using hround
      exact ⟨now, by simpa using h, rfl⟩
    | succ k =>
      obtain ⟨later, hlater, hnext⟩ := ih h.next hround
      exact ⟨later, by simpa [rounds] using hlater, hnext⟩

variable (o)

/-- What is sent over several rounds: the access units taken since the stream began, each one if the
viewer was still there. -/
theorem sent_rounds (n : Nat) :
    ((o.rounds n).flatMap Round.sent).map Prod.fst =
      (((o.rounds n).dropWhile fun r ↦ !(o.hasBegun || r.isStart)).filter
        (·.isStillOpen)).flatMap fun r ↦ r.taken.map AccessUnit.concat := by
  induction n generalizing o with
  | zero => rfl
  | succ n ih =>
    have hround := o.passes
    rw [rounds, List.flatMap_cons, List.map_append, hround.sent, ih, hround.begun,
      List.dropWhile_cons]
    cases hbegun : o.hasBegun || o.next.1.isStart with
    | false =>
      obtain ⟨hbefore, -⟩ := Bool.or_eq_false_iff.mp hbegun
      simp [hbefore]
    | true =>
      rw [Round.dropWhile_begun]
      cases hstill : o.next.1.isStillOpen <;> simp [hstill]

/-- The stream is announced in the round in which it begins. -/
theorem events_rounds {n k : Nat} {round : Round} (h : (o.rounds n)[k]? = some round) :
    round.events =
      if o.hasBegun = false ∧ (o.rounds n).findIdx? (·.isStart) = some k then [.keyframeReady]
      else [] := by
  induction n generalizing o k with
  | zero => cases h
  | succ n ih =>
    have hround := o.passes
    rw [rounds, List.findIdx?_cons]
    cases k with
    | zero =>
      obtain rfl : o.next.1 = round := by simpa [rounds] using h
      rw [hround.events]
      cases hstart : o.next.1.isStart <;> simp
    | succ k =>
      rw [ih o.next.2 h, hround.begun]
      cases hstart : o.next.1.isStart <;> simp

end Outlook

namespace Script

theorem roundsFrom_eq (n : Nat) (x : Worker × Script) :
    roundsFrom n x = (state x).1.rounds n := by
  induction n generalizing x with
  | zero => rfl
  | succ n ih =>
    obtain ⟨w, s⟩ := x
    have hstep := state_step w s
    have hafter := ih (w.step stations s)
    rw [hstep] at hafter
    rw [roundsFrom, Outlook.rounds, hafter, log_of_state hstep, Round.since_append]

/-- The rounds of a script make up its log. -/
theorem log_run (n : Nat) (x : Worker × Script) :
    (Worker.run stations n x).2.log = (roundsFrom n x).foldl (· ++ ·) x.2.log := by
  induction n generalizing x with
  | zero => rfl
  | succ n ih =>
    obtain ⟨w, s⟩ := x
    have hlog := log_of_state (state_step w s)
    rw [Worker.run_succ, ih, roundsFrom, List.foldl_cons, hlog, Round.since_append]

theorem length_rounds (s : Script) (n : Nat) : (s.rounds n).length = n := by
  have hlength : ∀ x : Worker × Script, (roundsFrom n x).length = n := by
    induction n with
    | zero => exact fun _ ↦ rfl
    | succ n ih => exact fun x ↦ congrArg (· + 1) (ih _)
  exact hlength (.fresh, s)

/-- Every round asks and takes what the script decides. -/
theorem follows_rounds {s : Script} {n k : Nat} {round : Round}
    (h : (s.rounds n)[k]? = some round) : round.Follows s ((s.rounds n).take k) := by
  let o := (state (.fresh, s)).1
  have hrounds : s.rounds n = o.rounds n := roundsFrom_eq n (.fresh, s)
  rw [hrounds] at h ⊢
  have hstart : o.Reached [] o := ⟨rfl, rfl, by simp⟩
  obtain ⟨now, hreached, rfl⟩ := hstart.exists_later h
  rw [List.nil_append] at hreached
  generalize (o.rounds n).take k = earlier at hreached ⊢
  obtain ⟨hviewing, htaken, -, -⟩ := now.uses
  have hasked : now.isOpen = s.isOpenAt (earlier.flatMap Round.viewing).length := by
    rw [Outlook.isOpen, hreached.videoOpens, List.head?_drop]
    rfl
  have haskedAgain : now.afterOpen.isOpen =
      s.isOpenAt ((earlier.flatMap Round.viewing).length + 1) := by
    rw [Outlook.isOpen, Outlook.afterOpen, hreached.videoOpens, List.tail_drop, List.head?_drop]
    rfl
  have hunit : now.unit? = s.unitAt? (earlier.countP Round.isOpen) := by
    rw [Outlook.unit?, hreached.units, List.head?_drop]
    rfl
  have hbegun :
      (now.hasBegun || now.next.1.isStart) = (earlier ++ [now.next.1]).any Round.isStart := by
    rw [hreached.hasBegun, List.any_append]
    simp [o, state, Worker.fresh, Outlook.hasBegun]
  constructor
  · rw [← hasked, ← haskedAgain, ← hbegun]
    exact hviewing
  · rw [now.isOpen_next, ← hunit]
    exact htaken

/-- What a worker sends.  The log is made up of rounds, each of which asks the viewer and the
encoder and takes what they answer next in the script, at most one access unit.  Those that are sent
are, in order and each one once, the ones taken from the first round on in which one was taken that
decoding can start with, as long as the viewer still accepted video when it was asked for the second
time in that round.  The stream is announced in that first round, whether or not the viewer was
still there, and in no other.  What the viewer says to what it is sent makes no difference to what
is sent later, and when. -/
theorem forwarded_in_order (s : Script) (n : Nat) :
    let rounds := s.rounds n
    (Worker.run stations n (.fresh, s)).2.log = rounds.foldl (· ++ ·) s.log ∧
      rounds.length = n ∧
      (∀ k (round : Round), rounds[k]? = some round → round.Follows s (rounds.take k)) ∧
      (rounds.flatMap Round.sent).map Prod.fst =
        ((rounds.dropWhile (!·.isStart)).filter (·.isStillOpen)).flatMap
          (fun r ↦ r.taken.map AccessUnit.concat) ∧
      ((rounds.flatMap Round.sent).map Prod.fst).Sublist
        ((rounds.flatMap Round.taken).map AccessUnit.concat) ∧
      (∀ k round, rounds[k]? = some round → round.taken.length ≤ 1 ∧ round.events =
        if rounds.findIdx? (·.isStart) = some k then [.keyframeReady] else []) ∧
      ∀ answers, ({ s with videoPushes := answers } : Script).rounds n = rounds := by
  intro rounds
  have hrounds : rounds = (state (.fresh, s)).1.rounds n := roundsFrom_eq n (.fresh, s)
  have hfresh : (state (.fresh, s)).1.hasBegun = false := rfl
  have hsent := (state (.fresh, s)).1.sent_rounds n
  rw [← hrounds, hfresh] at hsent
  simp only [Bool.false_or] at hsent
  have hfollows : ∀ k (round : Round), rounds[k]? = some round → round.Follows s (rounds.take k) :=
    fun _ _ ↦ follows_rounds
  refine ⟨log_run n (.fresh, s), s.length_rounds n, hfollows, hsent, ?_, ?_, ?_⟩
  · rw [hsent, List.map_flatMap]
    exact (List.filter_sublist.trans (List.dropWhile_sublist _)).flatMap _
  · intro k round hround
    have htaken := (hfollows k round hround).taken
    rw [hrounds] at hround
    have hevents := (state (.fresh, s)).1.events_rounds hround
    rw [hfresh, ← hrounds] at hevents
    refine ⟨?_, by simpa using hevents⟩
    rw [htaken]
    split_ifs
    · exact Option.length_toList_le
    · exact Nat.zero_le 1
  · intro answers
    rw [hrounds]
    exact roundsFrom_eq n (.fresh, { s with videoPushes := answers })

/-- The viewer leaves before the access unit with which decoding can start is sent: the stream is
announced, and what is sent is the next one only.  In the third round nobody watches, and the
encoder is not asked. -/
theorem forwarded_in_order_viewer_left :
    let s : Script := ⟨[true, false, true, true, false], [],
      [.ok (some ⟨[[1], [2]]⟩), .ok (some ⟨[[3]]⟩), .ok (some ⟨[[4]]⟩)], [], [], none, [], [], [],
      false, [], []⟩
    (s.rounds 3).map Round.viewing = [[true, false], [true, true], [false]] ∧
      (s.rounds 3).map Round.taken = [[⟨[[1], [2]]⟩], [⟨[[3]]⟩], []] ∧
      (s.rounds 3).map Round.events = [[.keyframeReady], [], []] ∧
      ((s.rounds 3).flatMap Round.sent).map Prod.fst = [[3]] := by
  intro s
  obtain ⟨-, -, -, hsent, -, -, -⟩ := s.forwarded_in_order 3
  refine ⟨by decide, by decide, by decide, ?_⟩
  rw [hsent]
  decide

end Script

end LiveCamera.Pipeline
