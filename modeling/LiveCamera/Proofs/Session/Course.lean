import LiveCamera.Proofs.Session.Operations

/-!
# The course of a session

The calls on a session have control of it one after the other, and each of them waits for the
transport more than once.  Meanwhile connections report, and whoever holds a track uses it.  A
`Course` is a session with how far the call in control has come; it records which builds were
attempted and how calls ended.

Giving a connection up is one step.  From its start on the connection is neither installed nor live,
so nothing that happens before the transport has answered the close can tell the difference.

A call with nothing in between does what the operation of the session does (`takeAll_establish`,
`takeAll_reset`, `takeAll_close`).
-/

namespace LiveCamera

/-- What the holder of a track does with it. -/
inductive TrackUse
  | openVideo (wanted : Bool)
  | closeVideo
  | writeVideo (data : Bytes) (timestamp : Nat) (answer : Nat → SinkAnswer)
  | openAudio (wanted : Bool)
  | closeAudio
  | writeAudio (packet : AudioPacket) (answer : Except Failure Unit)

/-- The connection after one of its tracks was used. -/
def Connection.use (c : Connection) : TrackUse → Connection
  | .openVideo wanted => { c with video := c.video.map (·.setOpen wanted) }
  | .closeVideo => { c with video := c.video.map (·.close) }
  | .writeVideo data timestamp answer => (c.writeVideo data timestamp answer).2
  | .openAudio wanted => { c with audio := c.audio.map (·.setOpen wanted) }
  | .closeAudio => { c with audio := c.audio.map (·.close) }
  | .writeAudio packet answer => (c.writeAudio packet answer).2

namespace Session

/-- How far the call has come that has control of a session. -/
inductive Progress
  /-- No call has control. -/
  | free
  /-- A reset has given the connection up and waits. -/
  | settling
  /-- The transport is asked for a connection. -/
  | connecting (resetting : Bool)
  /-- The connection gets its tracks and its offer. -/
  | settingUp (resetting : Bool) (place : Nat)
  /-- The connection could not be set up and is to be closed. -/
  | rejecting (place : Nat) (cause : Failure)

/-- A session whose calls are carried out in steps. -/
structure Course where
  session : Session
  progress : Progress
  /-- The generations that were to be built so far, in order. -/
  attempts : List Nat
  /-- How the calls ended that are over, in order. -/
  ended : List (Except Failure Unit)

/-- One step of a call, or something that happens in between. -/
inductive Move
  | establish
  /-- A reset begins; the connection that it gives up is closed. -/
  | reset (closing : Except Failure Unit)
  | close (closing : Except Failure Unit)
  /-- The pause of a reset is over. -/
  | settle
  /-- The transport answers. -/
  | connect (answer : Except Failure Unit)
  | setUp (answers : TransportAnswers)
  | reject (answer : Except Failure Unit)
  | report (place : Nat) (event : TransportEvent)
  | use (place : Nat) (use : TrackUse)

namespace Course

def start (config : SessionConfig) (journal : List StreamEvent) : Course :=
  ⟨new config journal, .free, [], []⟩

/-! ## Steps of a call -/

/-- A call is over. -/
def finish (x : Course) (session : Session) (result : Except Failure Unit) : Course :=
  { x with session, progress := .free, ended := x.ended ++ [result] }

/-- The next generation is to be built. -/
def attempt (x : Course) (resetting : Bool) : Course :=
  { x with
    session := { x.session with generation := x.session.generation + 1 }
    progress := .connecting resetting
    attempts := x.attempts ++ [x.session.generation + 1] }

/-- A session that is not closed any more. -/
def reopen (x : Course) : Course := { x with session := { x.session with shutdown := false } }

/-- A session without a connection attempts to build one. -/
def establish (x : Course) : Course :=
  match x.session.current with
  | some _ => x.reopen.finish x.reopen.session (.ok ())
  | none => x.reopen.attempt false

/-- A closed session refuses to be reset; one without a connection attempts to build one at once. -/
def reset (x : Course) (closing : Except Failure Unit) : Course :=
  if x.session.shutdown then x.finish x.session (.error .sessionClosed)
  else
    match x.session.current with
    | some _ => { x with session := x.session.giveUp closing, progress := .settling }
    | none => x.attempt true

def close (x : Course) (closing : Except Failure Unit) : Course :=
  x.finish (x.session.close closing) (.ok ())

/-- The transport has made a connection, or has not. -/
def connect (x : Course) (resetting : Bool) (answer : Except Failure Unit) : Course :=
  match answer with
  | .error cause => x.finish x.session (.error (.connectionFailed cause))
  | .ok _ =>
    { x with
      session := { x.session with
        connections := x.session.connections ++ [.bare x.session.generation] }
      progress := .settingUp resetting x.session.connections.length }

/-- The connection at that place, which is set up, is the session's from now on. -/
def install (x : Course) (resetting : Bool) (place : Nat) : Course :=
  let installed := ({ x.session with
    liveGeneration := x.session.generation
    current := some place } : Session).setState .negotiating
  x.finish (if resetting then installed.publish (.sessionReset installed.generation) else installed)
    (.ok ())

/-- Whether the connection at that place can be set up, if there is one. -/
def setUpResult? (x : Course) (place : Nat) (answers : TransportAnswers) :
    Option (Except Failure Unit) :=
  (x.session.connections[place]?).map fun c ↦ (c.setUp x.session.config answers).1

def setUp (x : Course) (resetting : Bool) (place : Nat) (answers : TransportAnswers) : Course :=
  let session := x.session.modify place fun c ↦ (c.setUp x.session.config answers).2
  match x.setUpResult? place answers with
  | none => x
  | some (.error cause) => { x with session, progress := .rejecting place cause }
  | some (.ok _) => ({ x with session } : Course).install resetting place

def reject (x : Course) (place : Nat) (cause : Failure) (answer : Except Failure Unit) : Course :=
  x.finish (x.session.modify place (·.closed answer)) (.error (.setUpFailed cause))

/-- The course after one move.  A step that is not the next one of the call in control does not
happen. -/
def take (x : Course) : Move → Course
  | .establish => match x.progress with | .free => x.establish | _ => x
  | .reset closing => match x.progress with | .free => x.reset closing | _ => x
  | .close closing => match x.progress with | .free => x.close closing | _ => x
  | .settle => match x.progress with | .settling => x.attempt true | _ => x
  | .connect answer =>
    match x.progress with | .connecting resetting => x.connect resetting answer | _ => x
  | .setUp answers =>
    match x.progress with | .settingUp resetting place => x.setUp resetting place answers | _ => x
  | .reject answer =>
    match x.progress with | .rejecting place cause => x.reject place cause answer | _ => x
  | .report place event => { x with session := x.session.report place event }
  | .use place use => { x with session := x.session.modify place (·.use use) }

/-- The course after several moves. -/
def takeAll (x : Course) (moves : List Move) : Course := moves.foldl take x

@[simp]
theorem takeAll_nil (x : Course) : x.takeAll [] = x := rfl

@[simp]
theorem takeAll_cons (x : Course) (move : Move) (moves : List Move) :
    x.takeAll (move :: moves) = (x.take move).takeAll moves := rfl

theorem takeAll_append (x : Course) (moves later : List Move) :
    x.takeAll (moves ++ later) = (x.takeAll moves).takeAll later :=
  List.foldl_append

variable {x : Course}

theorem take_establish (h : x.progress = .free) : x.take .establish = x.establish := by
  simp only [take, h]

theorem take_reset (h : x.progress = .free) (closing : Except Failure Unit) :
    x.take (.reset closing) = x.reset closing := by
  simp only [take, h]

theorem take_close (h : x.progress = .free) (closing : Except Failure Unit) :
    x.take (.close closing) = x.close closing := by
  simp only [take, h]

theorem establish_of_none (h : x.session.current = none) :
    x.establish = x.reopen.attempt false := by
  simp only [establish, h]

theorem establish_of_some {place : Nat} (h : x.session.current = some place) :
    x.establish = x.reopen.finish x.reopen.session (.ok ()) := by
  simp only [establish, h]

theorem reset_of_shutdown (h : x.session.shutdown = true) (closing : Except Failure Unit) :
    x.reset closing = x.finish x.session (.error .sessionClosed) := by
  simp only [reset, h, if_true]

theorem reset_of_none (h : x.session.current = none) (hshutdown : x.session.shutdown = false)
    (closing : Except Failure Unit) : x.reset closing = x.attempt true := by
  simp only [reset, h, hshutdown, Bool.false_eq_true, if_false]

theorem reset_of_some {place : Nat} (h : x.session.current = some place)
    (hshutdown : x.session.shutdown = false) (closing : Except Failure Unit) :
    x.reset closing = { x with session := x.session.giveUp closing, progress := .settling } := by
  simp only [reset, h, hshutdown, Bool.false_eq_true, if_false]

/-! ## What a move can do -/

/-- What can come of a move, and under which circumstances. -/
inductive Step (x : Course) : Move → Course → Prop
  | idle (move : Move) : Step x move x
  | keep (place : Nat) (hfree : x.progress = .free) (hcurrent : x.session.current = some place) :
    Step x .establish (x.reopen.finish x.reopen.session (.ok ()))
  | build (hfree : x.progress = .free) (hcurrent : x.session.current = none) :
    Step x .establish (x.reopen.attempt false)
  | refuse (closing : Except Failure Unit) (hfree : x.progress = .free)
      (hshutdown : x.session.shutdown = true) :
    Step x (.reset closing) (x.finish x.session (.error .sessionClosed))
  | rebuild (closing : Except Failure Unit) (hfree : x.progress = .free)
      (hshutdown : x.session.shutdown = false) (hcurrent : x.session.current = none) :
    Step x (.reset closing) (x.attempt true)
  | giveUp (closing : Except Failure Unit) (place : Nat) (hfree : x.progress = .free)
      (hshutdown : x.session.shutdown = false) (hcurrent : x.session.current = some place) :
    Step x (.reset closing) { x with session := x.session.giveUp closing, progress := .settling }
  | close (closing : Except Failure Unit) (hfree : x.progress = .free) :
    Step x (.close closing) (x.close closing)
  | settle (hsettling : x.progress = .settling) : Step x .settle (x.attempt true)
  | notConnected (resetting : Bool) (cause : Failure)
      (hconnecting : x.progress = .connecting resetting) :
    Step x (.connect (.error cause)) (x.finish x.session (.error (.connectionFailed cause)))
  | connect (resetting : Bool) (hconnecting : x.progress = .connecting resetting) :
    Step x (.connect (.ok ())) (x.connect resetting (.ok ()))
  | notSetUp (answers : TransportAnswers) (resetting : Bool) (place : Nat) (cause : Failure)
      (hsettingUp : x.progress = .settingUp resetting place) :
    Step x (.setUp answers)
      { x with
        session := x.session.modify place fun c ↦ (c.setUp x.session.config answers).2
        progress := .rejecting place cause }
  | setUp (answers : TransportAnswers) (resetting : Bool) (place : Nat)
      (hsettingUp : x.progress = .settingUp resetting place) :
    Step x (.setUp answers)
      (({ x with
        session := x.session.modify place fun c ↦ (c.setUp x.session.config answers).2 } :
          Course).install resetting place)
  | reject (answer : Except Failure Unit) (place : Nat) (cause : Failure)
      (hrejecting : x.progress = .rejecting place cause) :
    Step x (.reject answer) (x.reject place cause answer)
  | report (place : Nat) (event : TransportEvent) :
    Step x (.report place event) { x with session := x.session.report place event }
  | use (place : Nat) (use : TrackUse) :
    Step x (.use place use) { x with session := x.session.modify place (·.use use) }

theorem step_establish (h : x.progress = .free) : x.Step .establish x.establish := by
  rcases Option.eq_none_or_eq_some x.session.current with hcurrent | ⟨place, hcurrent⟩
  · rw [establish_of_none hcurrent]
    exact .build h hcurrent
  · rw [establish_of_some hcurrent]
    exact .keep place h hcurrent

theorem step_reset (h : x.progress = .free) (closing : Except Failure Unit) :
    x.Step (.reset closing) (x.reset closing) := by
  cases hshutdown : x.session.shutdown with
  | true =>
    rw [reset_of_shutdown hshutdown]
    exact .refuse closing h hshutdown
  | false =>
    rcases Option.eq_none_or_eq_some x.session.current with hcurrent | ⟨place, hcurrent⟩
    · rw [reset_of_none hcurrent hshutdown]
      exact .rebuild closing h hshutdown hcurrent
    · rw [reset_of_some hcurrent hshutdown]
      exact .giveUp closing place h hshutdown hcurrent

theorem step_setUp {resetting : Bool} {place : Nat} (h : x.progress = .settingUp resetting place)
    (answers : TransportAnswers) : x.Step (.setUp answers) (x.setUp resetting place answers) := by
  unfold setUp
  dsimp only
  split
  · exact .idle _
  · exact .notSetUp answers resetting place _ h
  · exact .setUp answers resetting place h

theorem step_take (x : Course) (move : Move) : x.Step move (x.take move) := by
  cases move with
  | establish =>
    simp only [take]
    split
    · exact step_establish ‹_›
    · exact .idle _
  | reset closing =>
    simp only [take]
    split
    · exact step_reset ‹_› closing
    · exact .idle _
  | close closing =>
    simp only [take]
    split
    · exact .close closing ‹_›
    · exact .idle _
  | settle =>
    simp only [take]
    split
    · exact .settle ‹_›
    · exact .idle _
  | connect answer =>
    simp only [take]
    split
    · cases answer with
      | error cause => exact .notConnected _ cause ‹_›
      | ok _ => exact .connect _ ‹_›
    · exact .idle _
  | setUp answers =>
    simp only [take]
    split
    · exact step_setUp ‹_› answers
    · exact .idle _
  | reject answer =>
    simp only [take]
    split
    · exact .reject answer _ _ ‹_›
    · exact .idle _
  | report place event => exact .report place event
  | use place use => exact .use place use

/-! ## Calls with nothing in between -/

/-- The steps of a build. -/
def buildMoves (answers : TransportAnswers) : List Move :=
  [.connect answers.connect, .setUp answers, .reject answers.close]

theorem modify_concat_length (connections : List Connection) (c : Connection)
    (f : Connection → Connection) :
    (connections ++ [c]).modify connections.length f = connections ++ [f c] := by
  induction connections with
  | nil => rfl
  | cons first rest ih => simpa using ih

/-- The steps of a build build a connection. -/
theorem takeAll_buildMoves (x : Course) (resetting : Bool) (answers : TransportAnswers) :
    (x.attempt resetting).takeAll (buildMoves answers) =
      ({ x with attempts := x.attempts ++ [x.session.generation + 1] } : Course).finish
        (if resetting then x.session.rebuild answers else x.session.build answers).2
        (if resetting then x.session.rebuild answers else x.session.build answers).1 := by
  simp only [buildMoves, takeAll_cons, takeAll_nil, take, attempt, connect]
  cases hconnect : answers.connect with
  | error cause =>
    have hbuild : x.session.build answers = (.error (.connectionFailed cause),
        { x.session with generation := x.session.generation + 1 }) := by
      simp only [build, hconnect]
    simp only [finish, rebuild, hbuild, ite_self]
  | ok _ =>
    simp only [setUp, setUpResult?, List.getElem?_concat_length, Option.map_some]
    cases hsetUp : (Connection.bare (x.session.generation + 1)).setUp x.session.config answers with
    | mk result c =>
      cases result with
      | error cause =>
        have hbuild : x.session.build answers = (.error (.setUpFailed cause),
            { x.session with
              generation := x.session.generation + 1
              connections := x.session.connections ++ [c.closed answers.close] }) := by
          simp only [build, hconnect, hsetUp]
        simp only [reject, finish, rebuild, hbuild, modify, modify_concat_length, hsetUp, ite_self]
      | ok _ =>
        have hbuild : x.session.build answers = (.ok (), ({ x.session with
            generation := x.session.generation + 1
            connections := x.session.connections ++ [c]
            liveGeneration := x.session.generation + 1
            current := some x.session.connections.length } : Session).setState .negotiating) := by
          simp only [build, hconnect, hsetUp]
        cases resetting with
        | false => simp [install, finish, hbuild, hsetUp, modify, modify_concat_length]
        | true => simp [install, finish, rebuild, hbuild, hsetUp, modify, modify_concat_length]

theorem takeAll_buildMoves_of_free (h : x.progress = .free) (answers : TransportAnswers) :
    x.takeAll (buildMoves answers) = x := by
  simp only [buildMoves, takeAll_cons, takeAll_nil, take, h]

/-- Opening a session with nothing in between. -/
theorem takeAll_establish (h : x.progress = .free) (answers : TransportAnswers) :
    ∃ attempts, x.takeAll (.establish :: buildMoves answers) =
      ({ x with attempts } : Course).finish (x.session.establish answers).2
        (x.session.establish answers).1 := by
  rw [takeAll_cons, take_establish h]
  rcases Option.eq_none_or_eq_some x.session.current with hcurrent | ⟨place, hcurrent⟩
  · rw [establish_of_none hcurrent, Session.establish_of_none hcurrent, takeAll_buildMoves]
    exact ⟨_, rfl⟩
  · rw [establish_of_some hcurrent, Session.establish_of_some hcurrent]
    exact ⟨x.attempts, takeAll_buildMoves_of_free rfl answers⟩

/-- A reset with nothing in between. -/
theorem takeAll_reset (h : x.progress = .free) (closing : Except Failure Unit)
    (answers : TransportAnswers) :
    ∃ attempts, x.takeAll (.reset closing :: .settle :: buildMoves answers) =
      ({ x with attempts } : Course).finish (x.session.reset closing answers).2
        (x.session.reset closing answers).1 := by
  have hrebuild : ∀ y : Course, ∃ attempts,
      (y.attempt true).takeAll (buildMoves answers) =
        ({ y with attempts } : Course).finish (y.session.rebuild answers).2
          (y.session.rebuild answers).1 := fun y ↦ ⟨_, y.takeAll_buildMoves true answers⟩
  rw [takeAll_cons, takeAll_cons, take_reset h, Session.reset]
  split_ifs with hshutdown
  · rw [reset_of_shutdown hshutdown]
    exact ⟨x.attempts, takeAll_buildMoves_of_free rfl answers⟩
  · have hopened : x.session.shutdown = false := eq_false_of_ne_true hshutdown
    rcases Option.eq_none_or_eq_some x.session.current with hcurrent | ⟨place, hcurrent⟩
    · rw [reset_of_none hcurrent hopened, giveUp_of_none hcurrent]
      exact hrebuild x
    · rw [reset_of_some hcurrent hopened]
      exact hrebuild { x with session := x.session.giveUp closing, progress := .settling }

theorem takeAll_close (h : x.progress = .free) (closing : Except Failure Unit) :
    x.takeAll [.close closing] = x.finish (x.session.close closing) (.ok ()) :=
  take_close h closing

end Course

end Session

end LiveCamera
