import LiveCamera.Proofs.Session.Operations
import LiveCamera.Streamer.Basic

/-!
# The course of a streamer

Starts and stops may come from several callers at once, and each of them waits for its
collaborators.  A start has the streamer to itself until it is over.  A stop has it only while it
lets go of the run, which it then ends in its own time.  A `Course` is a streamer with the calls
that are under way; it counts how many sessions were opened and how many of them were closed.

A call with nothing in between does what the operation of the streamer does (`takeAll_start`,
`takeAll_stop`).
-/

namespace LiveCamera

namespace Session

/-- A close says what the session said before, and then more. -/
theorem journal_close (s : Session) (answer : Except Failure Unit) :
    (s.close answer).journal = s.journal ++ (s.close answer).journal.drop s.journal.length := by
  have hprefix : ∃ more, (s.close answer).journal = s.journal ++ more := by
    unfold close
    rw [setState_eq]
    unfold retire
    split <;> exact ⟨_, rfl⟩
  obtain ⟨more, hmore⟩ := hprefix
  rw [hmore, List.drop_left]

end Session

namespace Streamer

variable {ε : Type}

/-! ## Parts of a start -/

/-- What a start does before it makes a session; nothing in it has to be waited for. -/
def prepare (s : Streamer ε) (answers : StartAnswers ε) :
    Except Failure (ε × SessionConfig) × Streamer ε :=
  match s.running with
  | some _ => (.error .alreadyRunning, s)
  | none =>
    match s.usableCamera with
    | .error cause => (.error cause, s)
    | .ok camera =>
      let s := { s with requests := s.requests ++ [s.request camera] }
      match answers.encoder (s.request camera) with
      | .error cause => (.error (.encoderFailed cause), s)
      | .ok encoder =>
        match s.resetAudio answers.audioReset with
        | (.error cause, s) => (.error cause, s)
        | (.ok _, s) =>
          match SessionConfig.ofSettings s.settings.stream s.settings.negotiation s.hasAudio with
          | .error cause => (.error cause, s)
          | .ok config => (.ok (encoder, config), s)

theorem start_eq_prepare (s : Streamer ε) (answers : StartAnswers ε) :
    s.start answers =
      match s.prepare answers with
      | (.error cause, s) => (.error cause, s)
      | (.ok (encoder, config), s) => s.launch answers encoder config := by
  unfold start prepare
  cases s.running with
  | some _ => rfl
  | none =>
    cases s.usableCamera with
    | error cause => rfl
    | ok camera =>
      dsimp only
      cases answers.encoder _ with
      | error cause => rfl
      | ok encoder =>
        dsimp only
        rcases Streamer.resetAudio _ answers.audioReset with ⟨_ | _, s⟩
        · rfl
        · dsimp only
          cases SessionConfig.ofSettings s.settings.stream s.settings.negotiation s.hasAudio <;> rfl

/-- How far a start has come that has made its session. -/
inductive Stage
  /-- The session is to be opened. -/
  | opening
  /-- The session is open, and the page is to be served. -/
  | serving (session : Session)
  | joining (session : Session) (page : List Listener)
  /-- Signaling could not be joined, and the page is to be closed. -/
  | unserving (session : Session) (cause : Failure)
  /-- The session is to be closed again. -/
  | withdrawing (session : Session) (cause : Failure)

/-- A start that is under way. -/
structure Starting (ε : Type) where
  answers : StartAnswers ε
  encoder : ε
  config : SessionConfig
  stage : Stage

/-- What is to be ended next of a run that was let go of. -/
inductive Remainder
  | worker
  | signaling
  | page
  | session

/-- What is to be ended after that, if there is more. -/
def Remainder.next? : Remainder → Option Remainder
  | worker => some signaling
  | signaling => some page
  | page => some session
  | session => none

/-- A stop that has let go of its run. -/
structure Stopping (ε : Type) where
  run : Run ε
  closing : Except Failure Unit
  next : Remainder

/-- A streamer whose calls are carried out in steps. -/
structure Course (ε : Type) where
  streamer : Streamer ε
  /-- The start that has the streamer to itself. -/
  starting : Option (Starting ε)
  /-- The stops that have let go of a run, in order. -/
  stopping : List (Stopping ε)
  /-- How many sessions were opened. -/
  opened : Nat
  /-- How many sessions were closed of those that were opened. -/
  closed : Nat
  /-- How the calls ended that are over, in order. -/
  ended : List (Except Failure Unit)

/-- A call that begins, or one step of a call. -/
inductive Move (ε : Type)
  | bindCamera (camera : Camera)
  | bindAudio
  | start (answers : StartAnswers ε)
  /-- The start that is under way goes on. -/
  | advance
  | stop (closing : Except Failure Unit)
  /-- One of the stops goes on that have let go of a run. -/
  | proceed (which : Nat)

namespace Course

def of (s : Streamer ε) : Course ε := ⟨s, none, [], 0, 0, []⟩

/-- A start is over. -/
def finish (x : Course ε) (streamer : Streamer ε) (result : Except Failure Unit) : Course ε :=
  { x with streamer, starting := none, ended := x.ended ++ [result] }

def start (x : Course ε) (answers : StartAnswers ε) : Course ε :=
  match x.streamer.prepare answers with
  | (.error cause, streamer) => x.finish streamer (.error cause)
  | (.ok (encoder, config), streamer) =>
    { x with streamer, starting := some ⟨answers, encoder, config, .opening⟩ }

/-- A start opens its session. -/
def openSession (x : Course ε) (c : Starting ε) : Course ε :=
  match (Session.new c.config []).establish c.answers.transport with
  | (.error cause, session) => x.finish (x.streamer.abandon session) (.error cause)
  | (.ok _, session) =>
    { x with
      streamer := x.streamer.publish session.journal
      starting := some { c with stage := .serving session }
      opened := x.opened + 1 }

def servePage (x : Course ε) (c : Starting ε) (session : Session) : Course ε :=
  match x.streamer.servePage c.answers with
  | .error cause => { x with starting := some { c with stage := .withdrawing session cause } }
  | .ok page => { x with starting := some { c with stage := .joining session page } }

/-- A start that has joined signaling has succeeded. -/
def joinSignaling (x : Course ε) (c : Starting ε) (session : Session) (page : List Listener) :
    Course ε :=
  match x.streamer.joinSignaling c.answers (!page.isEmpty) with
  | .error cause =>
    let stage := if page.isEmpty then .withdrawing session cause else .unserving session cause
    { x with starting := some { c with stage } }
  | .ok (role, listeners) =>
    let run : Run ε := ⟨session, c.encoder, .fresh, role, page ++ listeners⟩
    x.finish
      (({ x.streamer with running := some run } : Streamer ε).publish
        [.started x.streamer.videoType.codec.label role.name])
      (.ok ())

/-- A start that has failed closes the session that it has opened. -/
def withdraw (x : Course ε) (c : Starting ε) (session : Session) (cause : Failure) : Course ε :=
  let closed := session.close c.answers.closing
  { x.finish
      (({ x.streamer with past := x.streamer.past ++ closed.connections } : Streamer ε).publish
        (closed.journal.drop session.journal.length))
      (.error cause) with
    closed := x.closed + 1 }

def advance (x : Course ε) (c : Starting ε) : Course ε :=
  match c.stage with
  | .opening => x.openSession c
  | .serving session => x.servePage c session
  | .joining session page => x.joinSignaling c session page
  | .unserving session cause =>
    { x with starting := some { c with stage := .withdrawing session cause } }
  | .withdrawing session cause => x.withdraw c session cause

/-- A stop lets go of the run, if there is one. -/
def stop (x : Course ε) (closing : Except Failure Unit) : Course ε :=
  match x.streamer.detach with
  | (none, _) => { x with ended := x.ended ++ [.ok ()] }
  | (some run, streamer) =>
    { x with streamer, stopping := x.stopping ++ [⟨run, closing, .worker⟩] }

def proceed (x : Course ε) (which : Nat) (c : Stopping ε) : Course ε :=
  match c.next.next? with
  | some next => { x with stopping := x.stopping.set which { c with next } }
  | none =>
    { x with
      streamer := x.streamer.conclude c.run c.closing
      stopping := x.stopping.eraseIdx which
      closed := x.closed + 1
      ended := x.ended ++ [.ok ()] }

/-- The course after one move.  No call begins while a start has the streamer to itself. -/
def take (x : Course ε) : Move ε → Course ε
  | .bindCamera camera => { x with streamer := (x.streamer.bindCamera camera).2 }
  | .bindAudio => { x with streamer := x.streamer.bindAudio }
  | .start answers => match x.starting with | none => x.start answers | some _ => x
  | .advance => match x.starting with | none => x | some c => x.advance c
  | .stop closing => match x.starting with | none => x.stop closing | some _ => x
  | .proceed which => match x.stopping[which]? with | none => x | some c => x.proceed which c

/-- The course after several moves. -/
def takeAll (x : Course ε) (moves : List (Move ε)) : Course ε := moves.foldl take x

@[simp]
theorem takeAll_nil (x : Course ε) : x.takeAll [] = x := rfl

@[simp]
theorem takeAll_cons (x : Course ε) (move : Move ε) (moves : List (Move ε)) :
    x.takeAll (move :: moves) = (x.take move).takeAll moves := rfl

variable {x : Course ε}

theorem take_start (h : x.starting = none) (answers : StartAnswers ε) :
    x.take (.start answers) = x.start answers := by
  simp only [take, h]

theorem take_advance_of_none (h : x.starting = none) : x.take .advance = x := by
  simp only [take, h]

theorem take_advance {c : Starting ε} (h : x.starting = some c) :
    x.take .advance = x.advance c := by
  simp only [take, h]

theorem take_stop (h : x.starting = none) (closing : Except Failure Unit) :
    x.take (.stop closing) = x.stop closing := by
  simp only [take, h]

theorem stop_of_none (h : x.streamer.running = none) (closing : Except Failure Unit) :
    x.stop closing = { x with ended := x.ended ++ [.ok ()] } := by
  simp only [stop, detach, h]

theorem stop_of_some {run : Run ε} (h : x.streamer.running = some run)
    (closing : Except Failure Unit) :
    x.stop closing =
      { x with
        streamer := { x.streamer with running := none }
        stopping := x.stopping ++ [⟨run, closing, .worker⟩] } := by
  simp only [stop, detach, h]

/-! ## Calls with nothing in between -/

/-- The steps of a start: whichever way it ends, it takes no more. -/
def startMoves (answers : StartAnswers ε) : List (Move ε) :=
  .start answers :: List.replicate 5 .advance

def stopMoves (closing : Except Failure Unit) : List (Move ε) :=
  .stop closing :: List.replicate 4 (.proceed 0)

theorem takeAll_replicate_advance (h : x.starting = none) (count : Nat) :
    x.takeAll (List.replicate count .advance) = x := by
  induction count with
  | zero => rfl
  | succ count ih => rw [List.replicate_succ, takeAll_cons, take_advance_of_none h, ih]

theorem takeAll_replicate_succ {c : Starting ε} (h : x.starting = some c) (count : Nat) :
    x.takeAll (List.replicate (count + 1) .advance) =
      (x.advance c).takeAll (List.replicate count .advance) := by
  rw [List.replicate_succ, takeAll_cons, take_advance h]

/-- A start that has opened its session and closes it again is one that was given up. -/
theorem takeAll_withdrawing {s : Streamer ε} {c : Starting ε} {session : Session} {cause : Failure}
    (hstreamer : x.streamer = s.publish session.journal)
    (hstarting : x.starting = some { c with stage := .withdrawing session cause }) (count : Nat) :
    x.takeAll (List.replicate (count + 1) .advance) =
      ({ x with closed := x.closed + 1 } : Course ε).finish
        (s.abandon (session.close c.answers.closing)) (.error cause) := by
  rw [takeAll_replicate_succ hstarting]
  have hjournal := session.journal_close c.answers.closing
  have hwithdraw : x.advance { c with stage := .withdrawing session cause } =
      ({ x with closed := x.closed + 1 } : Course ε).finish
        (s.abandon (session.close c.answers.closing)) (.error cause) := by
    simp only [advance, withdraw, finish, hstreamer, abandon, publish, List.append_assoc]
    rw [← hjournal]
  rw [hwithdraw]
  exact takeAll_replicate_advance rfl count

/-- The steps behind the preparation of a start launch the run. -/
theorem takeAll_replicate_launch (x : Course ε) (answers : StartAnswers ε) (encoder : ε)
    (config : SessionConfig) :
    ∃ opened closed,
      ({ x with starting := some ⟨answers, encoder, config, .opening⟩ } : Course ε).takeAll
          (List.replicate 5 .advance) =
        ({ x with opened, closed } : Course ε).finish (x.streamer.launch answers encoder config).2
          (x.streamer.launch answers encoder config).1 := by
  rw [takeAll_replicate_succ rfl]
  simp only [advance, openSession, launch]
  rcases (Session.new config []).establish answers.transport with ⟨cause | _, session⟩
  · exact ⟨x.opened, x.closed, takeAll_replicate_advance rfl 4⟩
  dsimp only
  rw [takeAll_replicate_succ rfl]
  have hserve : (x.streamer.publish session.journal).servePage answers =
      x.streamer.servePage answers := rfl
  simp only [advance, servePage, hserve, openDoors]
  cases x.streamer.servePage answers with
  | error cause =>
    dsimp only
    refine ⟨x.opened + 1, x.closed + 1, ?_⟩
    exact takeAll_withdrawing (c := ⟨answers, encoder, config, .opening⟩) rfl rfl 2
  | ok page =>
    dsimp only
    rw [takeAll_replicate_succ rfl]
    have hjoin : (x.streamer.publish session.journal).joinSignaling answers (!page.isEmpty) =
        x.streamer.joinSignaling answers (!page.isEmpty) := rfl
    simp only [advance, joinSignaling, hjoin, bind, Except.bind, pure, Except.pure]
    cases x.streamer.joinSignaling answers (!page.isEmpty) with
    | error cause =>
      dsimp only
      refine ⟨x.opened + 1, x.closed + 1, ?_⟩
      by_cases hpage : page.isEmpty = true
      · simp only [hpage, if_true]
        exact takeAll_withdrawing (c := ⟨answers, encoder, config, .opening⟩) rfl rfl 1
      · simp only [hpage]
        rw [takeAll_replicate_succ rfl]
        exact takeAll_withdrawing (c := ⟨answers, encoder, config, .opening⟩) rfl rfl 0
    | ok joined =>
      obtain ⟨role, listeners⟩ := joined
      refine ⟨x.opened + 1, x.closed, ?_⟩
      dsimp only
      rw [takeAll_replicate_advance rfl]
      simp only [finish, publish, List.append_assoc]

/-- A start with nothing in between. -/
theorem takeAll_start (h : x.starting = none) (answers : StartAnswers ε) :
    ∃ opened closed, x.takeAll (startMoves answers) =
      ({ x with opened, closed } : Course ε).finish (x.streamer.start answers).2
        (x.streamer.start answers).1 := by
  rw [startMoves, takeAll_cons, take_start h, start, start_eq_prepare]
  rcases x.streamer.prepare answers with ⟨cause | ⟨encoder, config⟩, streamer⟩
  · exact ⟨x.opened, x.closed, takeAll_replicate_advance rfl 5⟩
  · exact takeAll_replicate_launch { x with streamer } answers encoder config

/-- A stop with nothing in between. -/
theorem takeAll_stop (h : x.starting = none) (hstopping : x.stopping = [])
    (closing : Except Failure Unit) :
    ∃ closed, x.takeAll (stopMoves closing) =
      { x with
        streamer := x.streamer.stop closing
        closed
        ended := x.ended ++ [.ok ()] } := by
  have hidle : ∀ y : Course ε, y.stopping = [] → y.take (.proceed 0) = y := by
    intro y hy
    simp [take, hy]
  rw [stopMoves, takeAll_cons, take_stop h]
  rcases Option.eq_none_or_eq_some x.streamer.running with hrunning | ⟨run, hrunning⟩
  · have hstop : x.streamer.stop closing = { x.streamer with running := none } := by
      simp only [Streamer.stop, detach, hrunning]
    rw [stop_of_none hrunning, hstop, ← hrunning]
    refine ⟨x.closed, ?_⟩
    simp [List.replicate, hidle, hstopping]
  · rw [stop_of_some hrunning, hstopping]
    refine ⟨x.closed + 1, ?_⟩
    simp [List.replicate, take, proceed, Remainder.next?, Streamer.stop, detach, hrunning]

end Course

end Streamer

end LiveCamera
