import LiveCamera.Event
import LiveCamera.Sdp
import LiveCamera.Session.Connection

/-!
# The peer session

A session has at most one connection at a time and can replace it. Every build of a connection is a
new generation; what a connection reports counts only while its generation is the live one, so a
connection that was given up cannot disturb the one that followed it.

```text
idle ── establish ──> negotiating ── viewer answers ──> connected
                           ^                                │
                           └──────────── reset ─────────────┘
```

A reset has two halves with a pause in between: the connection is given up, and a new one is built.
-/

namespace LiveCamera

/-- A session that can be rebuilt in place. -/
structure Session where
  config : SessionConfig
  state : SessionState
  /-- The place of the installed connection among all connections. -/
  current : Option Nat
  /-- The generation whose reports count; zero if there is none. -/
  liveGeneration : Nat
  /-- The number of builds so far. -/
  generation : Nat
  /-- Whether the session was closed and not opened again. -/
  shutdown : Bool
  /-- Every connection that the transport made for this session, in order. -/
  connections : List Connection
  /-- The events published so far, oldest first. -/
  journal : List StreamEvent

namespace Session

/-- A session without a connection; its events follow those already published. -/
def new (config : SessionConfig) (journal : List StreamEvent) : Session :=
  ⟨config, .idle, none, 0, 0, false, [], journal⟩

/-! ## Parts -/

def publish (s : Session) (event : StreamEvent) : Session :=
  { s with journal := s.journal ++ [event] }

/-- Changes the state; an event says so if the state is another one. -/
def setState (s : Session) (state : SessionState) : Session :=
  if s.state = state then s
  else ({ s with state } : Session).publish (.sessionStateChanged state.name)

def modify (s : Session) (place : Nat) (f : Connection → Connection) : Session :=
  { s with connections := s.connections.modify place f }

def connection? (s : Session) : Option Connection :=
  s.current.bind fun place ↦ s.connections[place]?

/-- Gives the installed connection up, if there is one. -/
def retire (s : Session) (answer : Except Failure Unit) : Session :=
  match s.current with
  | none => s
  | some place =>
    ({ s with current := none, liveGeneration := 0 } : Session).modify place (·.retired answer)

/-- Builds and installs a connection as the next generation. One that cannot be set up is closed. -/
def build (s : Session) (answers : TransportAnswers) : Except Failure Unit × Session :=
  let generation := s.generation + 1
  let s := { s with generation }
  match answers.connect with
  | .error cause => (.error (.connectionFailed cause), s)
  | .ok _ =>
    match (Connection.bare generation).setUp s.config answers with
    | (.error cause, c) =>
      (.error (.setUpFailed cause),
        { s with connections := s.connections ++ [c.closed answers.close] })
    | (.ok _, c) =>
      (.ok (),
        ({ s with
          connections := s.connections ++ [c]
          liveGeneration := generation
          current := some s.connections.length } : Session).setState .negotiating)

/-! ## Control -/

/-- Makes the first connection. A session that has one keeps it. -/
def establish (s : Session) (answers : TransportAnswers) : Except Failure Unit × Session :=
  let s := { s with shutdown := false }
  match s.current with
  | some _ => (.ok (), s)
  | none => s.build answers

/-- The first half of a reset: the connection is given up, and the session is closed until it has
another one. -/
def giveUp (s : Session) (answer : Except Failure Unit) : Session :=
  match s.current with
  | none => s
  | some _ => (s.retire answer).setState .closed

/-- The second half of a reset: another connection is built. -/
def rebuild (s : Session) (answers : TransportAnswers) : Except Failure Unit × Session :=
  match s.build answers with
  | (.error cause, after) => (.error cause, after)
  | (.ok _, after) => (.ok (), after.publish (.sessionReset after.generation))

/-- Replaces the connection. A closed session refuses. -/
def reset (s : Session) (closing : Except Failure Unit) (answers : TransportAnswers) :
    Except Failure Unit × Session :=
  if s.shutdown then (.error .sessionClosed, s) else (s.giveUp closing).rebuild answers

/-- Gives the connection up for good. -/
def close (s : Session) (closing : Except Failure Unit) : Session :=
  (({ s with shutdown := true } : Session).retire closing).setState .closed

/-! ## Reports of connections -/

/-- Whether what a connection reports counts. -/
def isLive (s : Session) (place : Nat) : Bool :=
  (s.connections[place]?).any fun c ↦ c.generation == s.liveGeneration

/-- A change of the state of a connection whose reports count. -/
def follow (s : Session) (place : Nat) (state : ConnectionState) : Session :=
  match state with
  | .connected => (s.modify place (·.setTracksOpen true)).setState .connected
  | .disconnected => (s.modify place (·.setTracksOpen false)).setState .negotiating
  | .failed | .closed => (s.modify place (·.setTracksOpen false)).setState .closed
  | .new | .connecting => s

/-- What a connection reports. Only a change of state of the live connection has an effect. -/
def report (s : Session) (place : Nat) (event : TransportEvent) : Session :=
  match event with
  | .stateChanged state => if s.isLive place then s.follow place state else s
  | _ => s

/-! ## Negotiation -/

/-- The local description as it is advertised; empty while there is none. -/
def localDescription (s : Session) : String :=
  match s.connection?.bind (·.localDescription) with
  | none => ""
  | some sdp => Sdp.withoutIpv6 sdp

/-- The connection that is asked to apply an answer: the installed one, unless the answer is
blank. -/
def answerTarget? (s : Session) (sdp : String) : Option Nat :=
  if Text.isBlankText sdp then none else s.current

/-- Applies a viewer's answer, if the connection accepts it. -/
def applyAnswer (s : Session) (sdp : String) (answer : Except Failure Unit) : Session :=
  match s.answerTarget? sdp, answer with
  | some place, .ok _ => s.modify place fun c ↦ { c with remoteDescription := some sdp }
  | _, _ => s

/-- Adds a viewer's candidate, if the connection accepts it. -/
def addCandidate (s : Session) (candidate : String) (mid : Option String)
    (answer : Except Failure Unit) : Session :=
  match s.current, answer with
  | some place, .ok _ =>
    s.modify place fun c ↦ { c with candidates := c.candidates ++ [(candidate, mid)] }
  | _, _ => s

/-! ## Media -/

def isVideoOpen (s : Session) : Bool := s.connection?.any (·.isVideoOpen)

def isAudioOpen (s : Session) : Bool := s.connection?.any (·.isAudioOpen)

/-- Sends an access unit on the video track of a connection, installed or not. -/
def writeVideo (s : Session) (place : Nat) (data : Bytes) (timestamp : Nat)
    (answer : Nat → SinkAnswer) : Except Failure Unit × Session :=
  match s.connections[place]? with
  | none => (.error .noVideoTrack, s)
  | some c =>
    let write := c.writeVideo data timestamp answer
    (write.1, s.modify place fun _ ↦ write.2)

def writeAudio (s : Session) (place : Nat) (packet : AudioPacket) (answer : Except Failure Unit) :
    Except Failure Unit × Session :=
  match s.connections[place]? with
  | none => (.error .audioNotEnabled, s)
  | some c =>
    let write := c.writeAudio packet answer
    (write.1, s.modify place fun _ ↦ write.2)

def pushVideo (s : Session) (data : Bytes) (timestamp : Nat) (answer : Nat → SinkAnswer) :
    Except Failure Unit × Session :=
  match s.current with
  | none => (.error .noVideoTrack, s)
  | some place => s.writeVideo place data timestamp answer

def pushAudio (s : Session) (packet : AudioPacket) (answer : Except Failure Unit) :
    Except Failure Unit × Session :=
  match s.current with
  | none => (.error .audioNotEnabled, s)
  | some place => s.writeAudio place packet answer

end Session

end LiveCamera
