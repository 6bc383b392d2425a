import LiveCamera.Proofs.Streamer.Course
import Mathlib.Data.List.Chain

/-!
# From one run to the next

A stop lets go of its run before it has ended it, so a start that comes in between opens a second
session (`not_always_one_session`).  What holds in any case is `Sound`: every session that was
opened was closed, or belongs to the start under way, to the run, or to a stop under way.  If every
start waits until no stop is under way, there is one session at a time, and starts and stops are
announced in turn (`one_session_of_patient`).
-/

namespace LiveCamera

/-- Whether an event says that streaming was started or stopped, and which. -/
def StreamEvent.mark? : StreamEvent → Option Bool
  | .started .. => some true
  | .stopped => some false
  | _ => none

/-- The starts and stops among events. -/
def StreamEvent.marks (events : List StreamEvent) : List Bool := events.filterMap mark?

namespace Session

open StreamEvent

theorem marks_setState (s : Session) (state : SessionState) :
    marks (s.setState state).journal = marks s.journal := by
  rw [setState_eq]
  dsimp only
  split_ifs <;> simp [marks, mark?]

/-- Sessions do not announce starts or stops. -/
theorem marks_establish (s : Session) (answers : TransportAnswers) :
    marks (s.establish answers).2.journal = marks s.journal := by
  rcases Option.eq_none_or_eq_some s.current with hcurrent | ⟨place, hcurrent⟩
  · rw [establish_of_none hcurrent]
    rcases build_cases { s with shutdown := false } answers with ⟨_, _, hbuild, -⟩ | ⟨_, hbuild, -⟩
    · rw [hbuild]
    · rw [hbuild]
      exact marks_setState _ .negotiating
  · rw [establish_of_some hcurrent]

theorem marks_close (s : Session) (answer : Except Failure Unit) :
    marks ((s.close answer).journal.drop s.journal.length) = [] := by
  have hmarks : marks (s.close answer).journal = marks s.journal := by
    unfold close
    rw [marks_setState]
    unfold retire
    split <;> rfl
  rw [journal_close] at hmarks
  simpa [marks] using hmarks

end Session

namespace Streamer

variable {ε : Type}

/-- The starts and stops that were announced so far. -/
def marks (s : Streamer ε) : List Bool := StreamEvent.marks s.journal

theorem marks_publish (s : Streamer ε) (events : List StreamEvent) :
    (s.publish events).marks = s.marks ++ StreamEvent.marks events :=
  List.filterMap_append

/-- Ending a run announces that streaming was stopped. -/
theorem marks_conclude (s : Streamer ε) (run : Run ε) (closing : Except Failure Unit) :
    (s.conclude run closing).marks = s.marks ++ [false] := by
  have hclose := run.session.marks_close closing
  unfold conclude
  dsimp only
  rw [marks_publish, StreamEvent.marks, List.filterMap_append, ← StreamEvent.marks, hclose]
  rfl

/-- The preparation of a start only adds to what the collaborators were asked for. -/
theorem prepare_eq (s : Streamer ε) (answers : StartAnswers ε) :
    ∃ requests audioResets, (s.prepare answers).2 = { s with requests, audioResets } := by
  unfold prepare
  split
  · exact ⟨_, _, rfl⟩
  split
  · exact ⟨_, _, rfl⟩
  dsimp only
  split
  · exact ⟨_, _, rfl⟩
  unfold resetAudio
  cases s.hasAudio with
  | false =>
    simp only [Bool.false_eq_true, if_false]
    split <;> exact ⟨_, _, rfl⟩
  | true =>
    simp only [if_true]
    cases answers.audioReset with
    | error cause => exact ⟨_, _, rfl⟩
    | ok _ =>
      dsimp only
      split <;> exact ⟨_, _, rfl⟩

/-- Only a streamer that does not run is prepared for a run. -/
theorem running_of_prepare_ok {s : Streamer ε} {answers : StartAnswers ε}
    {prepared : ε × SessionConfig} (h : (s.prepare answers).1 = .ok prepared) :
    s.running = none := by
  cases hrunning : s.running with
  | none => rfl
  | some run => simp [prepare, hrunning] at h

/-- Whether a start has opened its session. -/
def Starting.isOpen (c : Starting ε) : Bool :=
  match c.stage with
  | .opening => false
  | _ => true

def Move.isStart : Move ε → Bool
  | .start _ => true
  | _ => false

/-! ## What a move counts for -/

/-- What is under way in a course, and what was announced of it. -/
structure Tally where
  /-- Whether the start under way has opened its session, if there is one. -/
  starting : Option Bool
  running : Bool
  stopping : Nat
  opened : Nat
  closed : Nat
  marks : List Bool

namespace Tally

/-- The sessions that are open and belong to the start under way or to the run. -/
def held (t : Tally) : Nat := (t.starting.getD false).toNat + t.running.toNat

/-- What a move can change. -/
inductive Step (t : Tally) : Tally → Prop
  | idle : Step t t
  | begins (hstarting : t.starting = none) (hrunning : t.running = false) :
    Step t { t with starting := some false }
  /-- The start fails without a session. -/
  | fails (hstarting : t.starting = some false) : Step t { t with starting := none }
  | opens (hstarting : t.starting = some false) :
    Step t { t with starting := some true, opened := t.opened + 1 }
  | withdraws (hstarting : t.starting = some true) :
    Step t { t with starting := none, closed := t.closed + 1 }
  | succeeds (hstarting : t.starting = some true) :
    Step t { t with starting := none, running := true, marks := t.marks ++ [true] }
  /-- A stop lets go of the run. -/
  | letsGo (hstarting : t.starting = none) (hrunning : t.running = true) :
    Step t { t with running := false, stopping := t.stopping + 1 }
  | concludes (stopping : Nat) (hstopping : t.stopping = stopping + 1) :
    Step t { t with stopping, closed := t.closed + 1, marks := t.marks ++ [false] }

/-- The sessions that are open, and the runs that were announced, are those that are under way. -/
structure Sound (t : Tally) : Prop where
  exclusive : t.starting.isSome = true → t.running = false
  sessions : t.opened = t.closed + t.held + t.stopping
  announced : t.marks.count true = t.marks.count false + t.running.toNat + t.stopping

/-- One thing at a time is under way, and starts and stops were announced in turn. -/
structure Orderly (t : Tally) : Prop where
  single : 0 < t.stopping → t.starting = none ∧ t.running = false ∧ t.stopping = 1
  inTurn : (false :: t.marks).IsChain (· ≠ ·)
  last : (false :: t.marks).getLast? = some (t.running || decide (0 < t.stopping))

variable {t t' : Tally}

theorem count_append_mark (marks : List Bool) (next mark : Bool) :
    (marks ++ [next]).count mark = marks.count mark + if next = mark then 1 else 0 := by
  by_cases h : next = mark <;> simp [h]

theorem Sound.step (h : t.Sound) (hstep : t.Step t') : t'.Sound := by
  obtain ⟨hexclusive, hsessions, hannounced⟩ := h
  cases hstep with
  | idle => exact ⟨hexclusive, hsessions, hannounced⟩
  | begins hstarting hrunning =>
    simp only [held, hstarting] at hsessions
    exact ⟨fun _ ↦ hrunning, hsessions, hannounced⟩
  | fails hstarting =>
    simp only [held, hstarting] at hsessions
    exact ⟨by simp, hsessions, hannounced⟩
  | opens hstarting =>
    refine ⟨fun _ ↦ hexclusive (by simp [hstarting]), ?_, hannounced⟩
    simp only [held, hstarting, Option.getD_some, Bool.toNat_false, Bool.toNat_true] at hsessions ⊢
    omega
  | withdraws hstarting =>
    refine ⟨by simp, ?_, hannounced⟩
    simp only [held, hstarting, Option.getD_some, Option.getD_none, Bool.toNat_false,
      Bool.toNat_true] at hsessions ⊢
    omega
  | succeeds hstarting =>
    -- The session of the start becomes the session of the run.
    have hrunning := hexclusive (by simp [hstarting])
    refine ⟨by simp, ?_, ?_⟩
    · simp only [held, hstarting, hrunning, Option.getD_some, Option.getD_none, Bool.toNat_false,
        Bool.toNat_true] at hsessions ⊢
      omega
    · simp only [hrunning, count_append_mark, reduceCtorEq, if_true, if_false, Bool.toNat_true,
        Bool.toNat_false] at hannounced ⊢
      omega
  | letsGo hstarting hrunning =>
    refine ⟨fun _ ↦ rfl, ?_, ?_⟩
    · simp only [held, hstarting, hrunning, Bool.toNat_false, Bool.toNat_true] at hsessions ⊢
      omega
    · simp only [hrunning, Bool.toNat_false, Bool.toNat_true] at hannounced ⊢
      omega
  | concludes stopping hstopping =>
    refine ⟨hexclusive, ?_, ?_⟩
    · simp only [held, hstopping] at hsessions ⊢
      omega
    · simp only [hstopping, count_append_mark, reduceCtorEq, if_true, if_false] at hannounced ⊢
      omega

/-- A mark that differs from the last one keeps marks in turn. -/
theorem inTurn_append {marks : List Bool} {last next : Bool}
    (hinTurn : (false :: marks).IsChain (· ≠ ·)) (hlast : (false :: marks).getLast? = some last)
    (hnext : last ≠ next) : (false :: (marks ++ [next])).IsChain (· ≠ ·) := by
  rw [← List.cons_append, List.isChain_append]
  refine ⟨hinTurn, .singleton next, ?_⟩
  intro a ha b hb
  rw [hlast, Option.mem_some_iff] at ha
  rw [List.head?_cons, Option.mem_some_iff] at hb
  exact ha ▸ hb ▸ hnext

theorem getLast?_append_mark (marks : List Bool) (next : Bool) :
    (false :: (marks ++ [next])).getLast? = some next := by
  rw [← List.cons_append, List.getLast?_concat]

/-- Things stay in order if no start begins while a stop is under way. -/
theorem Orderly.step (h : t.Orderly) (hsound : t.Sound) (hstep : t.Step t')
    (hpatient : t.starting = none → t'.starting.isSome = true → t.stopping = 0) :
    t'.Orderly := by
  obtain ⟨hsingle, hinTurn, hlast⟩ := h
  -- Runs are announced only where nothing is being stopped, which `last` turns into the last mark.
  cases hstep with
  | idle => exact ⟨hsingle, hinTurn, hlast⟩
  | begins hstarting hrunning =>
    refine ⟨fun hpositive ↦ ?_, hinTurn, hlast⟩
    exact absurd (hpatient hstarting rfl) (Nat.ne_of_gt hpositive)
  | fails hstarting =>
    refine ⟨fun hpositive ↦ ?_, hinTurn, hlast⟩
    exact ⟨rfl, (hsingle hpositive).2⟩
  | opens hstarting =>
    refine ⟨fun hpositive ↦ ?_, hinTurn, hlast⟩
    exact nomatch hstarting.symm.trans (hsingle hpositive).1
  | withdraws hstarting =>
    refine ⟨fun hpositive ↦ ?_, hinTurn, hlast⟩
    exact ⟨rfl, (hsingle hpositive).2⟩
  | succeeds hstarting =>
    have hrunning := hsound.exclusive (by simp [hstarting])
    have hnone : t.stopping = 0 := by
      by_contra hpositive
      exact nomatch hstarting.symm.trans (hsingle (Nat.pos_of_ne_zero hpositive)).1
    rw [hrunning, hnone] at hlast
    refine ⟨fun hpositive ↦ absurd hnone (Nat.ne_of_gt hpositive), ?_, ?_⟩
    · exact inTurn_append hinTurn hlast (by decide)
    · rw [getLast?_append_mark]
      rfl
  | letsGo hstarting hrunning =>
    have hnone : t.stopping = 0 := by
      by_contra hpositive
      exact nomatch hrunning.symm.trans (hsingle (Nat.pos_of_ne_zero hpositive)).2.1
    refine ⟨fun _ ↦ ⟨hstarting, rfl, by rw [hnone]⟩, hinTurn, ?_⟩
    simpa [hrunning] using hlast
  | concludes stopping hstopping =>
    obtain ⟨-, hrunning, hone⟩ := hsingle (by omega)
    obtain rfl : stopping = 0 := by omega
    rw [hrunning, hone] at hlast
    refine ⟨fun hpositive ↦ absurd rfl (Nat.ne_of_gt hpositive), ?_, ?_⟩
    · exact inTurn_append hinTurn hlast (by decide)
    · rw [getLast?_append_mark, hrunning]
      rfl

end Tally

namespace Course

variable {x : Course ε}

def tally (x : Course ε) : Tally :=
  ⟨x.starting.map (·.isOpen), x.streamer.isRunning, x.stopping.length, x.opened, x.closed,
    x.streamer.marks⟩

theorem tally_starting_of_some {c : Starting ε} (h : x.starting = some c) :
    x.tally.starting = some c.isOpen := by
  simp only [tally, h, Option.map_some]

theorem tally_starting_of_none (h : x.starting = none) : x.tally.starting = none := by
  simp only [tally, h, Option.map_none]

theorem step_start (h : x.starting = none) (answers : StartAnswers ε) :
    x.tally.Step (x.start answers).tally := by
  obtain ⟨requests, audioResets, hprepared⟩ := x.streamer.prepare_eq answers
  unfold start
  rcases hprepare : x.streamer.prepare answers with ⟨cause | prepared, streamer⟩
  · rw [hprepare] at hprepared
    have htally : (x.finish streamer (.error cause)).tally = x.tally := by
      rw [show streamer = _ from hprepared]
      simp only [tally, finish, h]
      rfl
    dsimp only
    rw [htally]
    exact .idle
  · have hrunning := running_of_prepare_ok (congrArg Prod.fst hprepare)
    rw [hprepare] at hprepared
    dsimp only
    rw [show streamer = _ from hprepared]
    exact .begins (tally_starting_of_none h) (by simp only [tally, isRunning, hrunning]; rfl)

theorem step_openSession {c : Starting ε} (h : x.starting = some c) (hopen : c.isOpen = false) :
    x.tally.Step (x.openSession c).tally := by
  have hstarting : x.tally.starting = some false := hopen ▸ tally_starting_of_some h
  have hmarks := (Session.new c.config []).marks_establish c.answers.transport
  unfold openSession
  rcases hestablish : (Session.new c.config []).establish c.answers.transport with
    ⟨cause | _, session⟩ <;> rw [hestablish] at hmarks
  · have habandon : (x.streamer.abandon session).marks = x.streamer.marks := by
      rw [abandon, marks_publish, hmarks]
      exact List.append_nil _
    have htally : (x.finish (x.streamer.abandon session) (.error cause)).tally =
        { x.tally with starting := none } := by
      simp only [tally, finish, habandon]
      rfl
    exact htally ▸ .fails hstarting
  · have hpublish : (x.streamer.publish session.journal).marks = x.streamer.marks := by
      rw [marks_publish, hmarks]
      exact List.append_nil _
    have hstep := Tally.Step.opens hstarting
    rw [show x.tally.marks = (x.streamer.publish session.journal).marks from hpublish.symm] at hstep
    exact hstep

theorem step_withdraw {c : Starting ε} (h : x.starting = some c) (hopen : c.isOpen = true)
    (session : Session) (cause : Failure) : x.tally.Step (x.withdraw c session cause).tally := by
  have htally : (x.withdraw c session cause).tally =
      { x.tally with starting := none, closed := x.closed + 1 } := by
    simp only [tally, withdraw, finish, marks_publish, Session.marks_close, List.append_nil]
    rfl
  rw [htally]
  exact .withdraws (hopen ▸ tally_starting_of_some h)

/-- A start that has opened its session and goes on counts for nothing. -/
theorem step_stage {c : Starting ε} (h : x.starting = some c) (hopen : c.isOpen = true)
    {stage : Stage} (hstage : ({ c with stage } : Starting ε).isOpen = true) :
    x.tally.Step ({ x with starting := some { c with stage } } : Course ε).tally := by
  have htally : ({ x with starting := some { c with stage } } : Course ε).tally = x.tally := by
    simp only [tally, h, Option.map_some, hopen, hstage]
  rw [htally]
  exact .idle

theorem step_joinSignaling {c : Starting ε} (h : x.starting = some c) (hopen : c.isOpen = true)
    (session : Session) (page : List Listener) :
    x.tally.Step (x.joinSignaling c session page).tally := by
  unfold joinSignaling
  cases x.streamer.joinSignaling c.answers (!page.isEmpty) with
  | error cause =>
    dsimp only
    split_ifs
    · exact step_stage h hopen rfl
    · exact step_stage h hopen rfl
  | ok joined =>
    have hstep := Tally.Step.succeeds (hopen ▸ tally_starting_of_some h)
    dsimp only
    simp only [tally, finish, marks_publish]
    exact hstep

theorem step_advance {c : Starting ε} (h : x.starting = some c) :
    x.tally.Step (x.advance c).tally := by
  unfold advance
  cases hstage : c.stage with
  | opening => exact step_openSession h (by simp only [Starting.isOpen, hstage])
  | serving session =>
    have hopen : c.isOpen = true := by simp only [Starting.isOpen, hstage]
    dsimp only [servePage]
    cases x.streamer.servePage c.answers with
    | error cause => exact step_stage h hopen rfl
    | ok page => exact step_stage h hopen rfl
  | joining session page =>
    exact step_joinSignaling h (by simp only [Starting.isOpen, hstage]) session page
  | unserving session cause =>
    exact step_stage h (by simp only [Starting.isOpen, hstage]) rfl
  | withdrawing session cause =>
    exact step_withdraw h (by simp only [Starting.isOpen, hstage]) session cause

theorem step_stop (h : x.starting = none) (closing : Except Failure Unit) :
    x.tally.Step (x.stop closing).tally := by
  rcases Option.eq_none_or_eq_some x.streamer.running with hrunning | ⟨run, hrunning⟩
  · rw [stop_of_none hrunning]
    exact .idle
  · rw [stop_of_some hrunning]
    have hstep := Tally.Step.letsGo (t := x.tally) (tally_starting_of_none h)
      (by simp only [tally, isRunning, hrunning]; rfl)
    simp only [tally, List.length_append, List.length_singleton]
    exact hstep

theorem step_proceed {which : Nat} {c : Stopping ε} (h : x.stopping[which]? = some c) :
    x.tally.Step (x.proceed which c).tally := by
  unfold proceed
  cases c.next.next? with
  | some next =>
    have htally : ({ x with stopping := x.stopping.set which { c with next } } : Course ε).tally =
        x.tally := by
      simp only [tally, List.length_set]
    dsimp only
    rw [htally]
    exact .idle
  | none =>
    have hwhich := (List.getElem?_eq_some_iff.mp h).1
    have hlength : x.stopping.length = (x.stopping.eraseIdx which).length + 1 := by
      rw [List.length_eraseIdx_of_lt hwhich]
      omega
    have hstep := Tally.Step.concludes (t := x.tally) _ hlength
    dsimp only
    simp only [tally, marks_conclude]
    exact hstep

/-- Every move counts for one step at most. -/
theorem step_take (x : Course ε) (move : Move ε) : x.tally.Step (x.take move).tally := by
  cases move with
  | bindCamera camera =>
    have htally : (x.take (.bindCamera camera)).tally = x.tally := by
      simp only [take, tally, bindCamera]
      split_ifs <;> rfl
    rw [htally]
    exact .idle
  | bindAudio => exact .idle
  | start answers =>
    cases h : x.starting with
    | none =>
      rw [take_start h]
      exact step_start h answers
    | some c =>
      simp only [take, h]
      exact .idle
  | advance =>
    cases h : x.starting with
    | none =>
      rw [take_advance_of_none h]
      exact .idle
    | some c =>
      rw [take_advance h]
      exact step_advance h
  | stop closing =>
    cases h : x.starting with
    | none =>
      rw [take_stop h]
      exact step_stop h closing
    | some c =>
      simp only [take, h]
      exact .idle
  | proceed which =>
    cases h : x.stopping[which]? with
    | none =>
      simp only [take, h]
      exact .idle
    | some c =>
      simp only [take, h]
      exact step_proceed h

/-! ## What holds after any moves -/

theorem sound_takeAll (h : x.tally.Sound) (moves : List (Move ε)) :
    (x.takeAll moves).tally.Sound := by
  induction moves generalizing x with
  | nil => exact h
  | cons move moves ih => exact ih (h.step (x.step_take move))

/-- Whether every start waits until no stop is under way. -/
def isPatient (x : Course ε) : List (Move ε) → Bool
  | [] => true
  | move :: later => (!move.isStart || x.stopping.isEmpty) && (x.take move).isPatient later

/-- Only a start begins a start. -/
theorem isStart_of_isSome {move : Move ε} (h : x.starting = none)
    (hbegun : (x.take move).starting.isSome = true) : move.isStart = true := by
  cases move with
  | start answers => rfl
  | bindCamera camera => simp [take, h] at hbegun
  | bindAudio => simp [take, h] at hbegun
  | advance => simp [take, h] at hbegun
  | stop closing =>
    rw [take_stop h, stop] at hbegun
    split at hbegun <;> simp [h] at hbegun
  | proceed which =>
    simp only [take, proceed] at hbegun
    repeat' split at hbegun
    all_goals simp [h] at hbegun

theorem orderly_take (h : x.tally.Orderly) (hsound : x.tally.Sound) {move : Move ε}
    (hpatient : move.isStart = true → x.stopping = []) : (x.take move).tally.Orderly := by
  apply h.step hsound (x.step_take move)
  intro hstarting hbegun
  have hidle : x.starting = none := Option.map_eq_none_iff.mp hstarting
  have hstart := isStart_of_isSome hidle (by simpa [tally] using hbegun)
  simp only [tally, hpatient hstart, List.length_nil]

theorem orderly_takeAll (h : x.tally.Orderly) (hsound : x.tally.Sound) {moves : List (Move ε)}
    (hpatient : x.isPatient moves = true) : (x.takeAll moves).tally.Orderly := by
  induction moves generalizing x with
  | nil => exact h
  | cons move moves ih =>
    rw [isPatient, Bool.and_eq_true, Bool.or_eq_true, Bool.not_eq_true',
      List.isEmpty_iff] at hpatient
    have hmove : move.isStart = true → x.stopping = [] := by
      intro hstart
      simpa [hstart] using hpatient.1
    exact ih (orderly_take h hsound hmove) (hsound.step (x.step_take move)) hpatient.2

/-- A streamer that was just made does not run and has announced nothing. -/
theorem tally_of {settings : Settings} {s : Streamer ε} (hs : ofSettings settings = .ok s) :
    (of s).tally = ⟨none, false, 0, 0, 0, []⟩ := by
  unfold ofSettings at hs
  cases hcodec : settings.stream.codec? with
  | error cause => simp [hcodec, bind, Except.bind] at hs
  | ok codec =>
    cases hrateControl : settings.stream.rateControl? with
    | error cause => simp [hcodec, hrateControl, bind, Except.bind] at hs
    | ok rateControl =>
      simp only [hcodec, hrateControl, bind, Except.bind, pure, Except.pure] at hs
      cases hs
      rfl

/-- However starts and stops come in between each other: every session that was opened and not yet
closed belongs to the start under way, to the run or to a stop under way, and only one to the first
two; a streamer has announced one start for each stop, for its run and for each stop under way.  If
no start begins while a stop is under way, one session is open at a time, and starts and stops are
announced in turn. -/
theorem one_session_of_patient {settings : Settings} {s : Streamer ε}
    (hs : ofSettings settings = .ok s) (moves : List (Move ε)) :
    let x := (of s).takeAll moves
    x.opened = x.closed + x.tally.held + x.stopping.length ∧ x.tally.held ≤ 1 ∧
      x.streamer.marks.count true =
        x.streamer.marks.count false + x.streamer.isRunning.toNat + x.stopping.length ∧
      ((of s).isPatient moves = true →
        x.opened ≤ x.closed + 1 ∧ (false :: x.streamer.marks).IsChain (· ≠ ·)) := by
  intro x
  have hsound₀ : (of s).tally.Sound := by
    rw [tally_of hs]
    exact ⟨by simp, rfl, rfl⟩
  have horderly₀ : (of s).tally.Orderly := by
    rw [tally_of hs]
    exact ⟨by simp, .singleton false, rfl⟩
  have hsound : x.tally.Sound := sound_takeAll hsound₀ moves
  have hheld : x.tally.held ≤ 1 := by
    have hexclusive := hsound.exclusive
    unfold Tally.held
    rcases hstarting : x.tally.starting with _ | _ | _
    · simpa using Bool.toNat_le _
    · simpa using Bool.toNat_le _
    · simp [hexclusive (by simp [hstarting])]
  refine ⟨hsound.sessions, hheld, hsound.announced, ?_⟩
  intro hpatient
  have horderly : x.tally.Orderly := orderly_takeAll horderly₀ hsound₀ hpatient
  refine ⟨?_, horderly.inTurn⟩
  have hsessions : x.opened = x.closed + x.tally.held + x.tally.stopping := hsound.sessions
  by_cases hstopping : x.tally.stopping = 0
  · omega
  · obtain ⟨hstarting, hrunning, hone⟩ := horderly.single (Nat.pos_of_ne_zero hstopping)
    have hnone : x.tally.held = 0 := by simp [Tally.held, hstarting, hrunning]
    omega

/-- Settings that listen on whatever ports are free. -/
def anyPorts : Settings :=
  { Settings.initial with stream := { StreamSettings.initial with port := 0, signalingPort := 0 } }

/-- A streamer that can listen on any ports. -/
def anyPortsStreamer : Streamer Unit :=
  ⟨anyPorts, ⟨.h264, .cbr⟩, .new (.ofDevice false false) .healthy, true, none, false, none, [], [],
    0, []⟩

theorem ofSettings_anyPorts : ofSettings anyPorts = .ok anyPortsStreamer := rfl

/-- Collaborators on which everything works. -/
def workingAnswers : StartAnswers Unit :=
  ⟨fun _ ↦ .ok (), .ok (), .working none, fun _ _ ↦ true, fun _ _ ↦ true, .ok ()⟩

/-- A device is started, stopped, and started again once the stop is over. -/
theorem one_session_of_patient_restart :
    let moves : List (Move Unit) := .bindCamera ⟨⟨64, 64⟩, .nv21, 30⟩ ::
      startMoves workingAnswers ++ stopMoves (.ok ()) ++ startMoves workingAnswers
    let x := (of anyPortsStreamer).takeAll moves
    ofSettings anyPorts = .ok anyPortsStreamer ∧ (of anyPortsStreamer).isPatient moves = true ∧
      x.opened = 2 ∧ x.streamer.marks = [true, false, true] ∧ x.opened ≤ x.closed + 1 := by
  intro moves x
  have hpatient : (of anyPortsStreamer).isPatient moves = true := by decide +kernel
  obtain ⟨-, -, -, hone⟩ := one_session_of_patient ofSettings_anyPorts moves
  exact ⟨rfl, hpatient, by decide +kernel, by decide +kernel, (hone hpatient).1⟩

/-- A device is stopped, and started again while the stop is ending the run. -/
def hastyMoves : List (Move Unit) :=
  .bindCamera ⟨⟨64, 64⟩, .nv21, 30⟩ :: startMoves workingAnswers ++
    .stop (.ok ()) :: startMoves workingAnswers

/-- A start that begins while a stop is ending its run opens a second session, and it is announced
before the stop is. -/
theorem not_always_one_session :
    (¬ ∀ settings (s : Streamer Unit) (moves : List (Move Unit)), ofSettings settings = .ok s →
      ((of s).takeAll moves).opened ≤ ((of s).takeAll moves).closed + 1) ∧
    ¬ ∀ settings (s : Streamer Unit) (moves : List (Move Unit)), ofSettings settings = .ok s →
      (false :: ((of s).takeAll moves).streamer.marks).IsChain (· ≠ ·) := by
  refine ⟨?_, ?_⟩
  · intro hall
    have hopened : ((of anyPortsStreamer).takeAll hastyMoves).opened = 2 := by decide +kernel
    have hclosed : ((of anyPortsStreamer).takeAll hastyMoves).closed = 0 := by decide +kernel
    have hone := hall anyPorts anyPortsStreamer hastyMoves ofSettings_anyPorts
    rw [hopened, hclosed] at hone
    exact absurd hone (by decide)
  · intro hall
    have hmarks : ((of anyPortsStreamer).takeAll hastyMoves).streamer.marks = [true, true] := by
      decide +kernel
    have hinTurn := hall anyPorts anyPortsStreamer hastyMoves ofSettings_anyPorts
    rw [hmarks] at hinTurn
    exact absurd hinTurn (by decide)

end Course

end Streamer

end LiveCamera
