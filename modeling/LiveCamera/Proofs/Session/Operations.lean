import LiveCamera.Session.Basic
import Mathlib.Tactic.SplitIfs

/-!
# What the operations of a session do

One statement for each operation, so that no later proof opens one again.  Whatever the transport
answers, `build_cases` leaves two outcomes: a failure, after which at most a closed connection was
added to the ledger, or a connection of the next generation that is installed with its tracks shut.
`Operation` lists what can happen to a session, and `run` lets it happen.
-/

namespace LiveCamera

namespace Connection

/-- A connection whose tracks can be opened: video is there, audio if it is offered, and no track was
closed for good. -/
structure Ready (offersAudio : Bool) (c : Connection) : Prop where
  video : ∃ track, c.video = some track ∧ track.gate.locked = false
  audio : ∀ track, c.audio = some track → track.gate.locked = false
  hasAudio : c.audio.isSome = offersAudio

variable {offersAudio : Bool} {c : Connection}

theorem Ready.setTracksOpen (h : Ready offersAudio c) (wanted : Bool) :
    Ready offersAudio (c.setTracksOpen wanted) where
  video := by
    obtain ⟨track, htrack, hlocked⟩ := h.video
    refine ⟨track.setOpen wanted, ?_, ?_⟩
    · simp [Connection.setTracksOpen, htrack]
    · simpa [VideoTrack.setOpen] using hlocked
  audio := by
    intro track htrack
    obtain ⟨old, hold, rfl⟩ := Option.map_eq_some_iff.mp htrack
    simpa [AudioTrack.setOpen] using h.audio old hold
  hasAudio := by simpa [Connection.setTracksOpen] using h.hasAudio

theorem Ready.isVideoOpen_setTracksOpen (h : Ready offersAudio c) (wanted : Bool) :
    (c.setTracksOpen wanted).isVideoOpen = wanted := by
  obtain ⟨track, htrack, hlocked⟩ := h.video
  simp [isVideoOpen, Connection.setTracksOpen, htrack, VideoTrack.isOpen, VideoTrack.setOpen,
    Gate.isOpen_set hlocked]

theorem Ready.isAudioOpen_setTracksOpen (h : Ready offersAudio c) (wanted : Bool) :
    (c.setTracksOpen wanted).isAudioOpen = (offersAudio && wanted) := by
  rw [← h.hasAudio]
  cases haudio : c.audio with
  | none => simp [isAudioOpen, Connection.setTracksOpen, haudio]
  | some track =>
    simp [isAudioOpen, Connection.setTracksOpen, haudio, AudioTrack.isOpen, AudioTrack.setOpen,
      Gate.isOpen_set (h.audio track haudio)]

/-- What a session relies on in the connection that is installed: its generation, and tracks that are
open exactly while the session is connected. -/
structure Serves (generation : Nat) (offersAudio isConnected : Bool) (c : Connection) : Prop where
  generation : c.generation = generation
  ready : Ready offersAudio c
  video : c.isVideoOpen = isConnected
  audio : c.isAudioOpen = (offersAudio && isConnected)

theorem Serves.setTracksOpen {generation : Nat} {isConnected : Bool}
    (h : Serves generation offersAudio isConnected c) (wanted : Bool) :
    Serves generation offersAudio wanted (c.setTracksOpen wanted) where
  generation := h.generation
  ready := h.ready.setTracksOpen wanted
  video := h.ready.isVideoOpen_setTracksOpen wanted
  audio := h.ready.isAudioOpen_setTracksOpen wanted

/-- Only the generation and the tracks of a connection matter to the session. -/
theorem Serves.congr {generation : Nat} {isConnected : Bool} {d : Connection}
    (h : Serves generation offersAudio isConnected c) (hgeneration : d.generation = c.generation)
    (hvideo : d.video = c.video) (haudio : d.audio = c.audio) :
    Serves generation offersAudio isConnected d where
  generation := hgeneration.trans h.generation
  ready := ⟨hvideo ▸ h.ready.video, haudio ▸ h.ready.audio, haudio ▸ h.ready.hasAudio⟩
  video := by rw [isVideoOpen, hvideo, ← isVideoOpen, h.video]
  audio := by rw [isAudioOpen, haudio, ← isAudioOpen, h.audio]

@[simp]
theorem generation_bare (generation : Nat) : (bare generation).generation = generation := rfl

@[simp]
theorem generation_setTracksOpen (wanted : Bool) :
    (c.setTracksOpen wanted).generation = c.generation := rfl

@[simp]
theorem generation_closed (answer : Except Failure Unit) :
    (c.closed answer).generation = c.generation := rfl

@[simp]
theorem generation_retired (answer : Except Failure Unit) :
    (c.retired answer).generation = c.generation := rfl

@[simp]
theorem generation_setUp (config : SessionConfig) (answers : TransportAnswers) :
    (c.setUp config answers).2.generation = c.generation := by
  unfold setUp
  repeat' split
  all_goals rfl

/-- What a connection is like that was set up. -/
theorem eq_of_setUp_ok {config : SessionConfig} {answers : TransportAnswers} {c' : Connection}
    (h : c.setUp config answers = (.ok (), c')) :
    ∃ description, c' = { c with
      video := some (.ofCodec config.codec c.generation answers.firstSequence)
      audio := if config.audio then some (.new c.generation) else none
      localDescription := description } := by
  unfold setUp at h
  split at h
  · cases h
  · dsimp only at h
    split at h
    · cases h
    · split at h
      · cases h
      · rename_i description _
        cases h
        exact ⟨description, rfl⟩

/-- A connection that was set up has its tracks, which are still shut. -/
theorem ready_of_setUp_ok {config : SessionConfig} {answers : TransportAnswers} {c' : Connection}
    (h : c.setUp config answers = (.ok (), c')) :
    Ready config.audio c' ∧ c'.isVideoOpen = false ∧ c'.isAudioOpen = false := by
  obtain ⟨description, rfl⟩ := eq_of_setUp_ok h
  refine ⟨⟨⟨_, rfl, rfl⟩, ?_, ?_⟩, rfl, ?_⟩
  · intro track htrack
    dsimp only at htrack
    split_ifs at htrack
    cases htrack
    rfl
  · cases config.audio <;> rfl
  · cases config.audio <;> rfl

end Connection

namespace Session

/-! ## Parts of the operations -/

theorem setState_eq (s : Session) (state : SessionState) :
    s.setState state = { s with
      state
      journal := s.journal ++
        if s.state = state then [] else [.sessionStateChanged state.name] } := by
  unfold setState publish
  split_ifs with hstate
  · rw [← hstate, List.append_nil]
  · rfl

theorem retire_of_none {s : Session} (h : s.current = none) (answer : Except Failure Unit) :
    s.retire answer = s := by
  simp only [retire, h]

theorem retire_of_some {s : Session} {place : Nat} (h : s.current = some place)
    (answer : Except Failure Unit) :
    s.retire answer =
      ({ s with current := none, liveGeneration := 0 } : Session).modify place
        (·.retired answer) := by
  simp only [retire, h]

/-- Giving up what is not there only closes the session. -/
theorem vacate_of_none {s : Session} (h : s.current = none) (shutdown : Bool)
    (answer : Except Failure Unit) :
    (({ s with shutdown } : Session).retire answer).setState .closed =
      ({ s with shutdown } : Session).setState .closed := by
  rw [retire_of_none (s := { s with shutdown }) h]

/-- A connection that is given up is retired, and the session is closed. -/
theorem vacate_of_some {s : Session} {place : Nat} (h : s.current = some place) (shutdown : Bool)
    (answer : Except Failure Unit) :
    (({ s with shutdown } : Session).retire answer).setState .closed =
      (({ s with shutdown, current := none, liveGeneration := 0 } : Session).modify place
        (·.retired answer)).setState .closed := by
  rw [retire_of_some (s := { s with shutdown }) h]

/-- Whatever becomes of a build, it is the next generation and keeps what is not about connections.
A failed one leaves at most a closed connection behind; the other one is installed, and its tracks
are shut. -/
theorem build_cases (s : Session) (answers : TransportAnswers) :
    (∃ cause rejected, s.build answers =
        (.error cause, { s with
          generation := s.generation + 1
          connections := s.connections ++ rejected }) ∧
      ∀ c ∈ rejected, c.generation = s.generation + 1) ∨
    (∃ c, s.build answers =
        (.ok (), ({ s with
          generation := s.generation + 1
          connections := s.connections ++ [c]
          liveGeneration := s.generation + 1
          current := some s.connections.length } : Session).setState .negotiating) ∧
      c.generation = s.generation + 1 ∧ c.Ready s.config.audio ∧ c.isVideoOpen = false ∧
      c.isAudioOpen = false) := by
  have hgeneration : ((Connection.bare (s.generation + 1)).setUp s.config answers).2.generation =
      s.generation + 1 := Connection.generation_setUp s.config answers
  simp only [build]
  cases answers.connect with
  | error cause => exact .inl ⟨.connectionFailed cause, [], by simp, by simp⟩
  | ok _ =>
    cases hsetUp : (Connection.bare (s.generation + 1)).setUp s.config answers with
    | mk result c =>
      rw [hsetUp] at hgeneration
      cases result with
      | error cause => exact .inl ⟨_, [c.closed answers.close], rfl, by simpa using hgeneration⟩
      | ok _ => exact .inr ⟨c, rfl, hgeneration, Connection.ready_of_setUp_ok hsetUp⟩

theorem establish_of_none {s : Session} (h : s.current = none) (answers : TransportAnswers) :
    s.establish answers = ({ s with shutdown := false } : Session).build answers := by
  simp only [establish, h]

theorem establish_of_some {s : Session} {place : Nat} (h : s.current = some place)
    (answers : TransportAnswers) :
    s.establish answers = (.ok (), { s with shutdown := false }) := by
  simp only [establish, h]

theorem giveUp_of_none {s : Session} (h : s.current = none) (answer : Except Failure Unit) :
    s.giveUp answer = s := by
  simp only [giveUp, h]

theorem giveUp_of_some {s : Session} {place : Nat} (h : s.current = some place)
    (answer : Except Failure Unit) : s.giveUp answer = (s.retire answer).setState .closed := by
  simp only [giveUp, h]

@[simp]
theorem current_giveUp (s : Session) (answer : Except Failure Unit) :
    (s.giveUp answer).current = none := by
  rcases Option.eq_none_or_eq_some s.current with hcurrent | ⟨place, hcurrent⟩
  · rw [giveUp_of_none hcurrent, hcurrent]
  · rw [giveUp_of_some hcurrent, retire_of_some hcurrent, setState_eq]
    rfl

@[simp]
theorem shutdown_giveUp (s : Session) (answer : Except Failure Unit) :
    (s.giveUp answer).shutdown = s.shutdown := by
  rcases Option.eq_none_or_eq_some s.current with hcurrent | ⟨place, hcurrent⟩
  · rw [giveUp_of_none hcurrent]
  · rw [giveUp_of_some hcurrent, retire_of_some hcurrent, setState_eq]
    rfl

@[simp]
theorem generation_giveUp (s : Session) (answer : Except Failure Unit) :
    (s.giveUp answer).generation = s.generation := by
  rcases Option.eq_none_or_eq_some s.current with hcurrent | ⟨place, hcurrent⟩
  · rw [giveUp_of_none hcurrent]
  · rw [giveUp_of_some hcurrent, retire_of_some hcurrent, setState_eq]
    rfl

/-- A rebuild is a build that is announced if it succeeds. -/
theorem rebuild_cases (s : Session) (answers : TransportAnswers) :
    s.rebuild answers = s.build answers ∨
      s.rebuild answers = (.ok (), (s.build answers).2.publish
        (.sessionReset (s.build answers).2.generation)) := by
  unfold rebuild
  split
  · rename_i hbuild
    exact .inl hbuild.symm
  · rename_i hbuild
    rw [hbuild]
    exact .inr rfl

/-- Whether a connection was modified shows in its own place only. -/
theorem getElem?_modify_connections {s : Session} {place other : Nat} {f : Connection → Connection}
    {c : Connection} (h : (s.modify place f).connections[other]? = some c) :
    ∃ old, s.connections[other]? = some old ∧ c = if place = other then f old else old := by
  rw [modify, List.getElem?_modify] at h
  obtain ⟨old, hold, rfl⟩ := Option.map_eq_some_iff.mp h
  exact ⟨old, hold, rfl⟩

theorem isLive_iff {s : Session} {place : Nat} :
    s.isLive place = true ↔
      ∃ c, s.connections[place]? = some c ∧ c.generation = s.liveGeneration := by
  unfold isLive
  cases s.connections[place]? <;> simp

/-- A report either has no effect, or it is one of the live connection and opens or shuts its tracks
together with the state. -/
theorem report_cases (s : Session) (place : Nat) (event : TransportEvent) :
    s.report place event = s ∨
      ∃ wanted state, s.report place event =
          (s.modify place (·.setTracksOpen wanted)).setState state ∧
        s.isLive place = true ∧ decide (state = .connected) = wanted := by
  cases event with
  | stateChanged state =>
    rw [report]
    split_ifs with hlive
    · cases state with
      | new => exact .inl rfl
      | connecting => exact .inl rfl
      | connected => exact .inr ⟨true, .connected, rfl, hlive, rfl⟩
      | disconnected => exact .inr ⟨false, .negotiating, rfl, hlive, rfl⟩
      | failed => exact .inr ⟨false, .closed, rfl, hlive, rfl⟩
      | closed => exact .inr ⟨false, .closed, rfl, hlive, rfl⟩
    · exact .inl rfl
  | _ => exact .inl rfl

/-- A connection that could not be built is not installed, and the state stays as it was. -/
theorem of_build_eq_error {s : Session} {answers : TransportAnswers} {cause : Failure}
    (h : (s.build answers).1 = .error cause) :
    (s.build answers).2.state = s.state ∧ (s.build answers).2.current = s.current := by
  rcases s.build_cases answers with ⟨_, _, hbuild, -⟩ | ⟨_, hbuild, -⟩
  · rw [hbuild]
    exact ⟨rfl, rfl⟩
  · rw [hbuild] at h
    cases h

theorem state_of_establish_eq_error {s : Session} {answers : TransportAnswers} {cause : Failure}
    (h : (s.establish answers).1 = .error cause) : (s.establish answers).2.state = s.state := by
  rcases Option.eq_none_or_eq_some s.current with hcurrent | ⟨place, hcurrent⟩
  · rw [establish_of_none hcurrent] at h ⊢
    exact (of_build_eq_error h).1
  · rw [establish_of_some hcurrent] at h
    cases h

/-! ## Runs -/

/-- What happens to a session, one thing at a time: what it is asked to do, with what the transport
answers meanwhile, and what one of its connections reports. -/
inductive Operation
  | establish (answers : TransportAnswers)
  | reset (closing : Except Failure Unit) (answers : TransportAnswers)
  | close (closing : Except Failure Unit)
  | report (place : Nat) (event : TransportEvent)

/-- The session after one operation. -/
def step (s : Session) : Operation → Session
  | .establish answers => (s.establish answers).2
  | .reset closing answers => (s.reset closing answers).2
  | .close closing => s.close closing
  | .report place event => s.report place event

/-- The session after several operations. -/
def run (s : Session) (operations : List Operation) : Session := operations.foldl step s

theorem config_vacate (s : Session) (answer : Except Failure Unit) :
    ((s.retire answer).setState .closed).config = s.config := by
  rw [setState_eq]
  unfold retire
  split <;> rfl

theorem config_build (s : Session) (answers : TransportAnswers) :
    (s.build answers).2.config = s.config := by
  rcases s.build_cases answers with ⟨_, _, hbuild, -⟩ | ⟨_, hbuild, -⟩ <;> rw [hbuild]
  rw [setState_eq]

theorem config_report (s : Session) (place : Nat) (event : TransportEvent) :
    (s.report place event).config = s.config := by
  rcases s.report_cases place event with hreport | ⟨_, _, hreport, -, -⟩ <;> rw [hreport]
  rw [setState_eq]
  rfl

/-- What a session is made with never changes. -/
theorem config_step (s : Session) (operation : Operation) :
    (s.step operation).config = s.config := by
  cases operation with
  | establish answers =>
    simp only [step, establish]
    split
    · rfl
    · exact config_build _ answers
  | reset closing answers =>
    have hgiveUp : (s.giveUp closing).config = s.config := by
      unfold giveUp
      split
      · rfl
      · exact config_vacate s closing
    simp only [step, reset]
    split_ifs
    · rfl
    · rcases (s.giveUp closing).rebuild_cases answers with hrebuild | hrebuild <;> rw [hrebuild]
      · rw [config_build, hgiveUp]
      · rw [publish, config_build, hgiveUp]
  | close closing => exact config_vacate { s with shutdown := true } closing
  | report place event => exact config_report s place event

theorem config_run (s : Session) (operations : List Operation) :
    (s.run operations).config = s.config := by
  induction operations generalizing s with
  | nil => rfl
  | cons operation operations ih => rw [run, List.foldl_cons, ← run, ih, config_step]

end Session

end LiveCamera
