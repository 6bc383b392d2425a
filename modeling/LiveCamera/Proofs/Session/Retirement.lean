import LiveCamera.Proofs.Session.Ledger
import LiveCamera.Proofs.Track.Integrity

/-!
# Connections that were given up

A reset or a close locks the tracks of the connection that it gives up, and no report of that
connection counts any more: generations do not recur, and only the installed one is live.
`Retired` says so for one place of the ledger; every move keeps it.  `retired_for_good` is what it
comes to after any moves, whatever later connections report and whatever is done with the old
tracks.
-/

namespace LiveCamera

theorem VideoTrack.write_of_locked (t : VideoTrack Rtp.Payloader) (h : t.gate.locked = true)
    (data : Bytes) (timestamp : Nat) (answer : Nat → SinkAnswer) :
    ∃ cause, t.write data timestamp answer = ⟨.error cause, [], t⟩ ∧ cause.isNotReady = true :=
  t.writeWith_of_refused _ data timestamp answer (.inr (Gate.isOpen_of_locked h))

theorem AudioTrack.write_of_locked (t : AudioTrack) (h : t.gate.locked = true)
    (packet : AudioPacket) (answer : Except Failure Unit) :
    ∃ cause, t.write packet answer = (.error cause, []) ∧ cause.isNotReady = true := by
  have hshut : t.isOpen = false := Gate.isOpen_of_locked h
  by_cases hdata : packet.data.isEmpty = true
  · exact ⟨.emptyAudioPacket, by simp only [write, hdata, if_true], rfl⟩
  · refine ⟨.audioTrackNotOpen, ?_, rfl⟩
    simp only [write, hdata, hshut, Bool.false_eq_true, Bool.not_false, if_false, if_true]

namespace Connection

/-- What has become of a connection that was given up: the tracks that it had are locked. -/
structure Spent (old c : Connection) : Prop where
  hasVideo : c.video.isSome = old.video.isSome
  hasAudio : c.audio.isSome = old.audio.isSome
  video : ∀ track, c.video = some track → track.gate.locked = true
  audio : ∀ track, c.audio = some track → track.gate.locked = true

variable {old c : Connection}

theorem spent_retired (c : Connection) (answer : Except Failure Unit) :
    Spent c (c.retired answer) where
  hasVideo := by simp [retired, closed]
  hasAudio := by simp [retired, closed]
  video := by
    intro track htrack
    obtain ⟨_, -, rfl⟩ := Option.map_eq_some_iff.mp htrack
    rfl
  audio := by
    intro track htrack
    obtain ⟨_, -, rfl⟩ := Option.map_eq_some_iff.mp htrack
    rfl

namespace Spent

/-- Locked tracks stay locked whatever is done with their gates. -/
theorem of_map (h : Spent old c) {d : Connection}
    (video : VideoTrack Rtp.Payloader → VideoTrack Rtp.Payloader) (audio : AudioTrack → AudioTrack)
    (hvideo : d.video = c.video.map video) (haudio : d.audio = c.audio.map audio)
    (hvideoLocked : ∀ track, track.gate.locked = true → (video track).gate.locked = true)
    (haudioLocked : ∀ track, track.gate.locked = true → (audio track).gate.locked = true) :
    Spent old d where
  hasVideo := by rw [hvideo, Option.isSome_map, h.hasVideo]
  hasAudio := by rw [haudio, Option.isSome_map, h.hasAudio]
  video := by
    intro track htrack
    rw [hvideo] at htrack
    obtain ⟨before, hbefore, rfl⟩ := Option.map_eq_some_iff.mp htrack
    exact hvideoLocked before (h.video before hbefore)
  audio := by
    intro track htrack
    rw [haudio] at htrack
    obtain ⟨before, hbefore, rfl⟩ := Option.map_eq_some_iff.mp htrack
    exact haudioLocked before (h.audio before hbefore)

theorem setTracksOpen (h : Spent old c) (wanted : Bool) : Spent old (c.setTracksOpen wanted) :=
  h.of_map (·.setOpen wanted) (·.setOpen wanted) rfl rfl
    (fun track hlocked ↦ (track.gate.locked_set wanted).trans hlocked)
    fun track hlocked ↦ (track.gate.locked_set wanted).trans hlocked

theorem isVideoOpen (h : Spent old c) : c.isVideoOpen = false := by
  cases hvideo : c.video with
  | none => simp [Connection.isVideoOpen, hvideo]
  | some track =>
    simp [Connection.isVideoOpen, hvideo, VideoTrack.isOpen,
      Gate.isOpen_of_locked (h.video track hvideo)]

theorem isAudioOpen (h : Spent old c) : c.isAudioOpen = false := by
  cases haudio : c.audio with
  | none => simp [Connection.isAudioOpen, haudio]
  | some track =>
    simp [Connection.isAudioOpen, haudio, AudioTrack.isOpen,
      Gate.isOpen_of_locked (h.audio track haudio)]

/-- Nothing is sent on a locked video track. -/
theorem writeVideo (h : Spent old c) (data : Bytes) (timestamp : Nat) (answer : Nat → SinkAnswer) :
    ∃ cause, c.writeVideo data timestamp answer = (.error cause, c) ∧ cause.isNotReady = true := by
  cases hvideo : c.video with
  | none => exact ⟨.noVideoTrack, by simp only [Connection.writeVideo, hvideo], rfl⟩
  | some track =>
    obtain ⟨cause, hwrite, hcause⟩ :=
      track.write_of_locked (h.video track hvideo) data timestamp answer
    refine ⟨cause, ?_, hcause⟩
    cases c
    simp_all [Connection.writeVideo]

theorem writeAudio (h : Spent old c) (packet : AudioPacket) (answer : Except Failure Unit) :
    ∃ cause, c.writeAudio packet answer = (.error cause, c) ∧ cause.isNotReady = true := by
  cases haudio : c.audio with
  | none => exact ⟨.audioNotEnabled, by simp only [Connection.writeAudio, haudio], rfl⟩
  | some track =>
    obtain ⟨cause, hwrite, hcause⟩ := track.write_of_locked (h.audio track haudio) packet answer
    refine ⟨cause, ?_, hcause⟩
    cases c
    simp_all [Connection.writeAudio]

theorem use (h : Spent old c) (use : TrackUse) : Spent old (c.use use) := by
  cases use with
  | openVideo wanted =>
    exact h.of_map (·.setOpen wanted) id rfl Option.map_id_apply.symm
      (fun track hlocked ↦ (track.gate.locked_set wanted).trans hlocked) fun _ hlocked ↦ hlocked
  | closeVideo =>
    exact h.of_map (·.close) id rfl Option.map_id_apply.symm (fun _ _ ↦ rfl)
      fun _ hlocked ↦ hlocked
  | openAudio wanted =>
    exact h.of_map id (·.setOpen wanted) Option.map_id_apply.symm rfl (fun _ hlocked ↦ hlocked)
      fun track hlocked ↦ (track.gate.locked_set wanted).trans hlocked
  | closeAudio =>
    exact h.of_map id (·.close) Option.map_id_apply.symm rfl (fun _ hlocked ↦ hlocked)
      fun _ _ ↦ rfl
  | writeVideo data timestamp answer =>
    obtain ⟨cause, hwrite, -⟩ := h.writeVideo data timestamp answer
    rw [Connection.use, hwrite]
    exact h
  | writeAudio packet answer =>
    obtain ⟨cause, hwrite, -⟩ := h.writeAudio packet answer
    rw [Connection.use, hwrite]
    exact h

end Spent

end Connection

namespace Session

/-- Whether the tracks of the connection at that place, which were those of `old`, are locked. -/
def Locks (s : Session) (place : Nat) (old : Connection) : Prop :=
  ∃ c, s.connections[place]? = some c ∧ old.Spent c

variable {s : Session} {place : Nat} {old : Connection}

theorem Locks.modify (h : s.Locks place old) (other : Nat) {f : Connection → Connection}
    (hf : ∀ c, other = place → old.Spent c → old.Spent (f c)) :
    (s.modify other f).Locks place old := by
  obtain ⟨c, hc, hspent⟩ := h
  by_cases hplace : other = place
  · exact ⟨f c, by simp [Session.modify, hplace, hc], hf c hplace hspent⟩
  · exact ⟨c, by simp [Session.modify, hplace, hc], hspent⟩

theorem Locks.setState (h : s.Locks place old) (state : SessionState) :
    (s.setState state).Locks place old := by
  rw [setState_eq]
  exact h

/-- Reports do not open locked tracks. -/
theorem Locks.report (h : s.Locks place old) (other : Nat) (event : TransportEvent) :
    (s.report other event).Locks place old := by
  rcases s.report_cases other event with hreport | ⟨wanted, state, hreport, -, -⟩ <;> rw [hreport]
  · exact h
  · exact (h.modify other fun _ _ hspent ↦ hspent.setTracksOpen wanted).setState state

/-- Giving another connection up changes only that one. -/
theorem Locks.vacate (h : s.Locks place old) (hother : s.current ≠ some place) (shutdown : Bool)
    (answer : Except Failure Unit) :
    ((({ s with shutdown } : Session).retire answer).setState .closed).Locks place old := by
  rcases Option.eq_none_or_eq_some s.current with hcurrent | ⟨current, hcurrent⟩
  · have hshutdown : ({ s with shutdown } : Session).Locks place old := h
    rw [vacate_of_none hcurrent]
    exact hshutdown.setState .closed
  · have hvacant : ({ s with shutdown, current := none, liveGeneration := 0 } : Session).Locks
        place old := h
    rw [vacate_of_some hcurrent]
    apply Locks.setState
    exact hvacant.modify current fun c hplace _ ↦ absurd (hplace ▸ hcurrent) hother

/-- A connection that is given up has its tracks locked. -/
theorem locks_vacate {c : Connection} (hcurrent : s.current = some place)
    (hc : s.connections[place]? = some c) (shutdown : Bool) (answer : Except Failure Unit) :
    ((({ s with shutdown } : Session).retire answer).setState .closed).Locks place c := by
  rw [vacate_of_some hcurrent]
  apply Locks.setState
  exact ⟨c.retired answer, by simp [Session.modify, hc], c.spent_retired answer⟩

theorem current_vacate (s : Session) (shutdown : Bool) (answer : Except Failure Unit) :
    ((({ s with shutdown } : Session).retire answer).setState .closed).current = none := by
  rcases Option.eq_none_or_eq_some s.current with hcurrent | ⟨current, hcurrent⟩
  · rw [vacate_of_none hcurrent, setState_eq]
    exact hcurrent
  · rw [vacate_of_some hcurrent, setState_eq]
    rfl

namespace Course

variable {x : Course}

/-- The connection at that place, which was `old`, was given up. -/
structure Retired (place : Nat) (old : Connection) (x : Course) : Prop where
  locks : x.session.Locks place old
  gone : x.open? ≠ some place

namespace Retired

variable {place : Nat} {old : Connection}

theorem attempt (h : Retired place old x) (hopen : x.open? = x.session.current)
    (resetting : Bool) : Retired place old (x.attempt resetting) :=
  ⟨h.locks, fun hplace ↦ h.gone (hopen.trans hplace)⟩

theorem finish (h : Retired place old x) (hopen : x.open? = x.session.current)
    (result : Except Failure Unit) : Retired place old (x.finish x.session result) :=
  ⟨h.locks, fun hplace ↦ h.gone (hopen.trans hplace)⟩

/-- A new connection has a place of its own. -/
theorem connect (h : Retired place old x) (resetting : Bool) :
    Retired place old (x.connect resetting (.ok ())) := by
  obtain ⟨c, hc, hspent⟩ := h.locks
  have hlength := (List.getElem?_eq_some_iff.mp hc).1
  refine ⟨⟨c, ?_, hspent⟩, ?_⟩
  · dsimp only [Course.connect]
    rw [List.getElem?_append_left hlength, hc]
  · change some x.session.connections.length ≠ some place
    simpa using Nat.ne_of_gt hlength

/-- What is done to the connection that is built leaves the one that was given up alone. -/
theorem modify (h : Retired place old x) {building : Nat} (hopen : x.open? = some building)
    (f : Connection → Connection) : (x.session.modify building f).Locks place old := by
  apply h.locks.modify building
  intro _ hplace _
  exact absurd (hopen.trans (congrArg some hplace)) h.gone

theorem install (h : Retired place old x) {building : Nat} (hopen : x.open? = some building)
    (resetting : Bool) : Retired place old (x.install resetting building) := by
  have hinstalled : ({ x.session with
      liveGeneration := x.session.generation
      current := some building } : Session).Locks place old := h.locks
  have hgone : some building ≠ some place := hopen ▸ h.gone
  unfold Course.install
  dsimp only
  refine ⟨?_, ?_⟩
  · cases resetting with
    | false => exact hinstalled.setState .negotiating
    | true => exact hinstalled.setState .negotiating
  · cases resetting <;> simpa [open?, Course.finish, setState_eq, publish] using hgone

/-- A connection that was given up stays given up. -/
theorem step (h : Retired place old x) (hx : x.Sound) {move : Move} {y : Course}
    (hstep : x.Step move y) : Retired place old y := by
  cases hstep with
  | idle => exact h
  | keep _ hfree =>
    have hreopened : Retired place old x.reopen := ⟨h.locks, h.gone⟩
    exact hreopened.finish (open?_of_free hfree) _
  | build hfree =>
    have hreopened : Retired place old x.reopen := ⟨h.locks, h.gone⟩
    exact hreopened.attempt (open?_of_free hfree) false
  | refuse closing hfree => exact h.finish (open?_of_free hfree) _
  | rebuild closing hfree => exact h.attempt (open?_of_free hfree) true
  | giveUp closing current hfree hshutdown hcurrent =>
    refine ⟨?_, by simp [open?]⟩
    rw [giveUp_of_some hcurrent]
    exact h.locks.vacate (open?_of_free hfree ▸ h.gone) x.session.shutdown closing
  | close closing hfree =>
    refine ⟨h.locks.vacate (open?_of_free hfree ▸ h.gone) true closing, ?_⟩
    change (x.session.close closing).current ≠ some place
    simp [Session.close, current_vacate]
  | settle hsettling => exact h.attempt (by simp only [open?, hsettling]) true
  | notConnected resetting cause hconnecting =>
    exact h.finish (by simp only [open?, hconnecting]) _
  | connect resetting hconnecting => exact h.connect resetting
  | notSetUp answers resetting building cause hsettingUp =>
    have hopen : x.open? = some building := by simp only [open?, hsettingUp]
    exact ⟨h.modify hopen _, fun hplace ↦ h.gone (hopen.trans hplace)⟩
  | setUp answers resetting building hsettingUp =>
    have hopen : x.open? = some building := by simp only [open?, hsettingUp]
    have hsetUp : Retired place old { x with
        session := x.session.modify building fun c ↦ (c.setUp x.session.config answers).2 } :=
      ⟨h.modify hopen _, h.gone⟩
    exact hsetUp.install hopen resetting
  | reject answer rejected cause hrejecting =>
    have hopen : x.open? = some rejected := by simp only [open?, hrejecting]
    obtain ⟨hcurrent, -⟩ := hx.vacant (by simp [hrejecting])
    refine ⟨h.modify hopen _, ?_⟩
    change x.session.current ≠ some place
    simp [hcurrent]
  | report other event =>
    have hopen : ({ x with session := x.session.report other event } : Course).open? = x.open? := by
      simp only [open?, (x.session.same_report other event).current]
    exact ⟨h.locks.report other event, hopen ▸ h.gone⟩
  | use other use => exact ⟨h.locks.modify other fun _ _ hspent ↦ hspent.use use, h.gone⟩

theorem takeAll (h : Retired place old x) (hx : x.Sound) (moves : List Move) :
    Retired place old (x.takeAll moves) := by
  induction moves generalizing x with
  | nil => exact h
  | cons move moves ih => exact ih (h.step hx (x.step_take move)) (hx.take move)

end Retired

/-- A call that takes more than one step has no connection installed meanwhile. -/
theorem Sound.free_of_current (h : x.Sound) {place : Nat}
    (hcurrent : x.session.current = some place) : x.progress = .free := by
  by_contra hbusy
  exact nomatch (h.vacant hbusy).1.symm.trans hcurrent

/-- Only what the open connection reports counts: no other one has its generation. -/
theorem Sound.open?_of_isLive (h : x.Sound) {place : Nat} (hlive : x.session.isLive place = true) :
    x.open? = some place := by
  obtain ⟨c, hc, hgeneration⟩ := isLive_iff.mp hlive
  obtain ⟨answered, -, hsublist⟩ := h.numbered
  have hentry := getElem?_ledger_of_connection hc
  have hnumber : (x.session.ledger.map Prod.fst)[place]? = some x.session.liveGeneration := by
    rw [List.getElem?_map, hentry, ← hgeneration]
    rfl
  rcases Option.eq_none_or_eq_some x.session.current with hcurrent | ⟨current, hcurrent⟩
  · have hpositive := List.mem_range'_1.mp (hsublist.subset (List.mem_of_getElem? hnumber))
    rw [h.silent hcurrent] at hpositive
    omega
  · rw [open?_of_free (h.free_of_current hcurrent), hcurrent]
    obtain ⟨closes, hinstalled⟩ := h.live current hcurrent
    have hcurrentNumber :
        (x.session.ledger.map Prod.fst)[current]? = some x.session.liveGeneration := by
      rw [List.getElem?_map, hinstalled]
      rfl
    have hnodup := hsublist.nodup List.nodup_range'
    have hlength := (List.getElem?_eq_some_iff.mp hcurrentNumber).1
    have hsame := (List.getElem?_inj hlength hnodup).mp (hcurrentNumber.trans hnumber.symm)
    exact congrArg some hsame

/-- A report of a connection that was given up has no effect at all. -/
theorem Retired.report {place : Nat} {old : Connection} (h : Retired place old x) (hx : x.Sound)
    (event : TransportEvent) : x.session.report place event = x.session := by
  rcases x.session.report_cases place event with hreport | ⟨_, _, -, hlive, -⟩
  · exact hreport
  · exact absurd (hx.open?_of_isLive hlive) h.gone

theorem modify_self {s : Session} {place : Nat} {c : Connection}
    (hc : s.connections[place]? = some c) : s.modify place (fun _ ↦ c) = s := by
  have hconnections : s.connections.modify place (fun _ ↦ c) = s.connections := by
    apply List.ext_getElem?
    intro other
    rw [List.getElem?_modify]
    by_cases hplace : place = other
    · simp [← hplace, hc]
    · simp [hplace]
  rw [Session.modify, hconnections]

/-- A reset or a close gives up the connection that is installed. -/
theorem Sound.retired (h : x.Sound) {place : Nat} {old : Connection}
    (hcurrent : x.session.current = some place)
    (hold : x.session.connections[place]? = some old) {retiring : Move}
    {closing : Except Failure Unit}
    (hretiring : retiring = .reset closing ∨ retiring = .close closing) :
    Retired place old (x.take retiring) := by
  have hfree := h.free_of_current hcurrent
  have hshutdown : x.session.shutdown = false := by
    by_contra hclosed
    exact nomatch (h.shutdown (by simpa using hclosed)).symm.trans hcurrent
  rcases hretiring with rfl | rfl
  · rw [take_reset hfree, reset_of_some hcurrent hshutdown]
    refine ⟨?_, by simp [open?]⟩
    rw [giveUp_of_some hcurrent]
    exact locks_vacate hcurrent hold x.session.shutdown closing
  · rw [take_close hfree]
    refine ⟨locks_vacate hcurrent hold true closing, ?_⟩
    change (x.session.close closing).current ≠ some place
    simp [Session.close, current_vacate]

/-- A connection that a reset or a close has given up is dead, whatever other connections report
afterwards and whatever is done with its tracks: no report of it has an effect, its tracks stay
shut, and every later write on them is refused and stores nothing. -/
theorem retired_for_good (config : SessionConfig) (journal : List StreamEvent)
    (before later : List Move) (retiring : Move) (closing : Except Failure Unit) (place : Nat)
    (old : Connection)
    (hcurrent : ((start config journal).takeAll before).session.current = some place)
    (hold : ((start config journal).takeAll before).session.connections[place]? = some old)
    (hretiring : retiring = .reset closing ∨ retiring = .close closing) :
    let s := ((start config journal).takeAll (before ++ retiring :: later)).session
    (∀ event, s.report place event = s) ∧
      (∃ c, s.connections[place]? = some c ∧
        c.video.isSome = old.video.isSome ∧ c.audio.isSome = old.audio.isSome ∧
        c.isVideoOpen = false ∧ c.isAudioOpen = false) ∧
      (∀ data timestamp answer, ∃ cause,
        s.writeVideo place data timestamp answer = (.error cause, s) ∧ cause.isNotReady = true) ∧
      ∀ packet answer, ∃ cause,
        s.writeAudio place packet answer = (.error cause, s) ∧ cause.isNotReady = true := by
  intro s
  have hbefore : ((start config journal).takeAll before).Sound :=
    (sound_start config journal).takeAll before
  have hsound := (hbefore.take retiring).takeAll later
  have hretired := (hbefore.retired hcurrent hold hretiring).takeAll (hbefore.take retiring) later
  rw [← takeAll_cons, ← takeAll_append] at hsound hretired
  obtain ⟨c, hc, hspent⟩ := hretired.locks
  refine ⟨hretired.report hsound, ?_, ?_, ?_⟩
  · exact ⟨c, hc, hspent.hasVideo, hspent.hasAudio, hspent.isVideoOpen, hspent.isAudioOpen⟩
  · intro data timestamp answer
    obtain ⟨cause, hwrite, hcause⟩ := hspent.writeVideo data timestamp answer
    refine ⟨cause, ?_, hcause⟩
    change s.connections[place]? = some c at hc
    simp only [Session.writeVideo, hc, hwrite, modify_self hc]
  · intro packet answer
    obtain ⟨cause, hwrite, hcause⟩ := hspent.writeAudio packet answer
    refine ⟨cause, ?_, hcause⟩
    change s.connections[place]? = some c at hc
    simp only [Session.writeAudio, hc, hwrite, modify_self hc]

/-- A viewer is connected to the first connection when a reset begins.  While the second one is
built and connected, the first one reports and its video track is asked to open. -/
theorem retired_for_good_during_reset :
    let before := .establish :: buildMoves (.working none) ++
      [.report 0 (.stateChanged .connected)]
    let later := .report 0 (.stateChanged .disconnected) :: .settle ::
      buildMoves (.working none) ++ [.use 0 (.openVideo true),
        .report 1 (.stateChanged .connected), .report 0 (.stateChanged .failed)]
    let x := (start ⟨.h264, [], true, 100⟩ []).takeAll before
    let y := (start ⟨.h264, [], true, 100⟩ []).takeAll (before ++ .reset (.ok ()) :: later)
    let s := y.session
    x.session.current = some 0 ∧ x.session.isVideoOpen = true ∧
      s.state = .connected ∧ s.current = some 1 ∧
      s.report 0 (.stateChanged .connected) = s ∧
      ∃ c, s.connections[0]? = some c ∧ c.video.isSome = true ∧ c.isVideoOpen = false := by
  intro before later x y s
  obtain ⟨hreport, ⟨c, hc, hvideo, -, hshut, -⟩, -, -⟩ :=
    retired_for_good ⟨.h264, [], true, 100⟩ [] before later (.reset (.ok ())) (.ok ()) 0 _ rfl rfl
      (.inl rfl)
  exact ⟨rfl, rfl, rfl, rfl, hreport _, c, hc, hvideo, hshut⟩

end Course

end Session

end LiveCamera
