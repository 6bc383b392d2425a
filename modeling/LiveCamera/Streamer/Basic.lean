import LiveCamera.Overlay.Compositor
import LiveCamera.Page.Addresses
import LiveCamera.Pipeline.Worker
import LiveCamera.Session.Basic
import LiveCamera.Signaling.Endpoint

/-!
# The streamer

The streamer starts and stops streaming. A start takes an encoder, opens a session, serves the
viewer page and joins signaling, in this order; if one of these fails, what was opened before is
closed again. A stop has two parts: the run is let go of, and then it is ended. The overlay outlives
runs.
-/

namespace LiveCamera

/-- What an encoder is asked for. -/
structure EncoderRequest where
  size : Size
  format : PixelFormat
  videoType : VideoType
  /-- Frames per second. -/
  rate : Nat
  /-- Frames from one key picture to the next. -/
  keyInterval : Nat
  /-- Bits per second. -/
  bitrate : Nat
  deriving DecidableEq, Repr

/-- What a streamer needs to know of a camera. -/
structure Camera where
  size : Size
  format : PixelFormat
  rate : Nat
  deriving DecidableEq, Repr

/-- What a device listens for. -/
inductive Listener
  | page
  | signaling
  deriving DecidableEq, Repr

/-- The part a device plays in signaling. -/
inductive SignalingRole
  /-- It hosts the endpoint. -/
  | server
  /-- It joined a remote endpoint. -/
  | client
  deriving DecidableEq, Repr

namespace SignalingRole

def name : SignalingRole → String
  | server => "server"
  | client => "client"

end SignalingRole

/-- What the collaborators of a start answer. An encoder is an `ε`. -/
structure StartAnswers (ε : Type) where
  encoder : EncoderRequest → Except Failure ε
  audioReset : Except Failure Unit
  transport : TransportAnswers
  /-- Whether an address and port can be listened on, besides what is listened on already. -/
  canListen : String → Nat → Bool
  /-- Whether there is an endpoint at an address. -/
  canReach : String → Nat → Bool
  /-- The answer to closing the connection if the start fails after all. -/
  closing : Except Failure Unit

/-- What exists only while streaming. -/
structure Run (ε : Type) where
  session : Session
  encoder : ε
  worker : Pipeline.Worker
  role : SignalingRole
  listeners : List Listener

/-- A streamer whose encoders are `ε`s. -/
structure Streamer (ε : Type) where
  settings : Settings
  videoType : VideoType
  compositor : Compositor
  /-- Whether regions are shown on the streamer's own plane. -/
  hasOwnPlane : Bool
  camera : Option Camera
  hasAudio : Bool
  running : Option (Run ε)
  /-- The connections of runs and starts that are over, in order. -/
  past : List Connection
  /-- What encoders were asked for so far. -/
  requests : List EncoderRequest
  /-- How often the audio source was reset. -/
  audioResets : Nat
  /-- The events published so far, oldest first. -/
  journal : List StreamEvent

namespace Streamer

variable {ε : Type}

/-- A stopped streamer, if the settings name a codec and a rate-control mode. -/
def ofSettings (settings : Settings) : Except Failure (Streamer ε) := do
  let codec ← settings.stream.codec?
  let rateControl ← settings.stream.rateControl?
  let orientation := Orientation.ofDevice settings.device.flipped settings.device.mirrored
  return ⟨settings, ⟨codec, rateControl⟩, .new orientation .healthy, true, none, false, none, [],
    [], 0, []⟩

def isRunning (s : Streamer ε) : Bool := s.running.isSome

/-- Every connection that was ever made, in order. -/
def connections (s : Streamer ε) : List Connection :=
  s.past ++ (s.running.map (·.session.connections)).getD []

def publish (s : Streamer ε) (events : List StreamEvent) : Streamer ε :=
  { s with journal := s.journal ++ events }

/-- Binds a camera. Its frames have to be in the format of encoders. -/
def bindCamera (s : Streamer ε) (camera : Camera) : Except Failure Unit × Streamer ε :=
  if camera.format ≠ .nv21 then (.error (.cameraFormat camera.format), s)
  else
    (.ok (), { s with compositor := s.compositor.bindCamera camera.size, camera := some camera })

/-- Binds an audio source; the next run offers an audio track. -/
def bindAudio (s : Streamer ε) : Streamer ε := { s with hasAudio := true }

/-- Shows regions elsewhere. Regions are given up, while the camera stays bound. -/
def withOverlay (s : Streamer ε) (hardware : Hardware) : Streamer ε :=
  { s with
    compositor := { Compositor.new s.compositor.orientation hardware with
      camera := s.compositor.camera }
    hasOwnPlane := false }

/-- The streamer's own plane as it lies over the camera's picture. -/
def overlayFrame (s : Streamer ε) : Option Bytes :=
  if s.hasOwnPlane then s.compositor.camera.map s.compositor.hardware.plane.render else none

def pageAddress (s : Streamer ε) : String :=
  Page.address s.settings.stream.bindAddress s.settings.stream.port

/-! ## Starting -/

/-- The encoder widths that work are multiples of this. -/
def widthAlignment : Nat := 32

/-- The camera of a run, if there is one that an encoder can work with. -/
def usableCamera (s : Streamer ε) : Except Failure Camera :=
  match s.camera with
  | none => .error .noCameraForStart
  | some camera =>
    if camera.size.width % widthAlignment = 0 then .ok camera
    else .error (.cameraWidth camera.size.width widthAlignment)

/-- What an encoder is asked for. -/
def request (s : Streamer ε) (camera : Camera) : EncoderRequest :=
  ⟨camera.size, camera.format, s.videoType, camera.rate, s.settings.stream.keyInterval,
    s.settings.stream.bitrate⟩

/-- A failed start: what its session made and said is kept. -/
def abandon (s : Streamer ε) (session : Session) : Streamer ε :=
  { s with past := s.past ++ session.connections }.publish session.journal

/-- Serves the viewer page, if the settings ask for it: what is listened for then. -/
def servePage (s : Streamer ε) (answers : StartAnswers ε) : Except Failure (List Listener) :=
  let stream := s.settings.stream
  if !stream.servesPage then .ok []
  else if answers.canListen stream.bindAddress stream.port then .ok [.page]
  else .error (.pageNotBound stream.bindAddress stream.port)

/-- Hosts the signaling endpoint or joins a remote one: the role, and what is listened for besides.
A port that the page has taken is not free. -/
def joinSignaling (s : Streamer ε) (answers : StartAnswers ε) (pageServed : Bool) :
    Except Failure (SignalingRole × List Listener) :=
  let stream := s.settings.stream
  if stream.hostsSignaling then
    let isTaken := pageServed && stream.port != 0 && stream.port == stream.signalingPort
    if !isTaken && answers.canListen stream.bindAddress stream.signalingPort then
      .ok (.server, [.signaling])
    else .error (.signalingNotBound stream.bindAddress stream.signalingPort)
  else
    let host := Text.trim stream.signalingAddress
    if answers.canReach host stream.signalingPort then .ok (.client, [])
    else
      .error (.endpointUnreachable (Signaling.Endpoint.url host stream.signalingPort)
        s.settings.negotiation.connectBudget)

/-- Serves the page and joins signaling. -/
def openDoors (s : Streamer ε) (answers : StartAnswers ε) :
    Except Failure (SignalingRole × List Listener) := do
  let page ← s.servePage answers
  let signaling ← s.joinSignaling answers (!page.isEmpty)
  return (signaling.1, page ++ signaling.2)

/-- The last part of a start, with an encoder at hand: the session is opened and made known. -/
def launch (s : Streamer ε) (answers : StartAnswers ε) (encoder : ε) (config : SessionConfig) :
    Except Failure Unit × Streamer ε :=
  match (Session.new config []).establish answers.transport with
  | (.error cause, session) => (.error cause, s.abandon session)
  | (.ok _, session) =>
    match s.openDoors answers with
    | .error cause => (.error cause, s.abandon (session.close answers.closing))
    | .ok (role, listeners) =>
      (.ok (),
        ({ s with
          running := some ⟨session, encoder, .fresh, role, listeners⟩ } : Streamer ε).publish
          (session.journal ++ [.started s.videoType.codec.label role.name]))

def resetAudio (s : Streamer ε) (answer : Except Failure Unit) :
    Except Failure Unit × Streamer ε :=
  if s.hasAudio then (answer, { s with audioResets := s.audioResets + 1 }) else (.ok (), s)

/-- Starts streaming. -/
def start (s : Streamer ε) (answers : StartAnswers ε) : Except Failure Unit × Streamer ε :=
  match s.running with
  | some _ => (.error .alreadyRunning, s)
  | none =>
    match s.usableCamera with
    | .error cause => (.error cause, s)
    | .ok camera =>
      let s := { s with requests := s.requests ++ [s.request camera] }
      match answers.encoder (s.request camera) with
      | .error cause => (.error (.encoderFailed cause), s)
      | .ok encoder =>
        match s.resetAudio answers.audioReset with
        | (.error cause, s) => (.error cause, s)
        | (.ok _, s) =>
          match SessionConfig.ofSettings s.settings.stream s.settings.negotiation s.hasAudio with
          | .error cause => (.error cause, s)
          | .ok config => s.launch answers encoder config

/-! ## While streaming -/

/-- Changes the run; what its session says meanwhile is published. -/
def withRun {α : Type} (s : Streamer ε) (idle : α) (f : Run ε → α × Run ε) : α × Streamer ε :=
  match s.running with
  | none => (idle, s)
  | some run =>
    let changed := f run
    (changed.1,
      ({ s with running := some changed.2 } : Streamer ε).publish
        (changed.2.session.journal.drop run.session.journal.length))

/-- Changes the session of the run. -/
def withSession {α : Type} (s : Streamer ε) (idle : α) (f : Session → α × Session) :
    α × Streamer ε :=
  s.withRun idle fun run ↦
    let changed := f run.session
    (changed.1, { run with session := changed.2 })

/-! ## Stopping -/

/-- Lets go of the run. From here on the streamer can be started again. -/
def detach (s : Streamer ε) : Option (Run ε) × Streamer ε := (s.running, { s with running := none })

/-- Ends a run that was let go of. -/
def conclude (s : Streamer ε) (run : Run ε) (closing : Except Failure Unit) : Streamer ε :=
  let session := run.session.close closing
  ({ s with past := s.past ++ session.connections } : Streamer ε).publish
    (session.journal.drop run.session.journal.length ++ [.stopped])

/-- Stops streaming. -/
def stop (s : Streamer ε) (closing : Except Failure Unit) : Streamer ε :=
  match s.detach with
  | (none, s) => s
  | (some run, s) => s.conclude run closing

end Streamer

end LiveCamera
