import LiveCamera.Session.Config
import LiveCamera.Session.State
import LiveCamera.Track.Audio
import LiveCamera.Track.Video

/-!
# Connections

A connection is made by the transport. The session adds its tracks, has it create an offer, and
closes it in the end; if one of these steps fails the connection is closed at once. What the
transport answers is given from outside. A connection record lists everything that was asked of it,
so that it tells whether and how often it was closed.
-/

namespace LiveCamera

/-- What a connection reports by itself. -/
inductive TransportEvent
  | stateChanged (state : ConnectionState)
  | candidateGathered (candidate : String)
  | channelOpened (label : String)
  | channelMessage (label : String) (length : Nat)
  | channelClosed (label : String)
  deriving DecidableEq, Repr, Inhabited

/-- What the transport answers while a connection is made and set up. -/
structure TransportAnswers where
  connect : Except Failure Unit
  addVideo : Except Failure Unit
  addAudio : Except Failure Unit
  /-- The local description that the offer leaves; none if it is not there yet. -/
  createOffer : Except Failure (Option String)
  /-- The answer to closing a connection that could not be set up. -/
  close : Except Failure Unit
  /-- The number of the first video packet. -/
  firstSequence : UInt16

namespace TransportAnswers

/-- A transport on which everything works. -/
def working (description : Option String) : TransportAnswers :=
  ⟨.ok (), .ok (), .ok (), .ok description, .ok (), 0⟩

end TransportAnswers

structure Connection where
  /-- The build of the session that asked for the connection. -/
  generation : Nat
  video : Option (VideoTrack Rtp.Payloader)
  audio : Option AudioTrack
  localDescription : Option String
  remoteDescription : Option String
  /-- The remote candidates with their media identifiers, in order. -/
  candidates : List (String × Option String)
  /-- The answer to each close, in order. -/
  closes : List (Except Failure Unit)
  /-- What the video sink stored. -/
  packets : List Rtp.Packet
  samples : List AudioPacket

namespace Connection

def bare (generation : Nat) : Connection := ⟨generation, none, none, none, none, [], [], [], []⟩

def isClosed (c : Connection) : Bool := !c.closes.isEmpty

/-- The connection with its tracks and its offer, or as far as it got and the failure. -/
def setUp (config : SessionConfig) (answers : TransportAnswers) (c : Connection) :
    Except Failure Unit × Connection :=
  match answers.addVideo with
  | .error cause => (.error cause, c)
  | .ok _ =>
    let c := { c with video := some (.ofCodec config.codec c.generation answers.firstSequence) }
    match if config.audio then answers.addAudio else .ok () with
    | .error cause => (.error cause, c)
    | .ok _ =>
      let c := { c with audio := if config.audio then some (.new c.generation) else none }
      match answers.createOffer with
      | .error cause => (.error cause, c)
      | .ok description => (.ok (), { c with localDescription := description })

def closed (answer : Except Failure Unit) (c : Connection) : Connection :=
  { c with closes := c.closes ++ [answer] }

/-- The connection after it was given up: its tracks are closed first, then the connection. -/
def retired (answer : Except Failure Unit) (c : Connection) : Connection :=
  ({ c with video := c.video.map (·.close), audio := c.audio.map (·.close) } : Connection).closed
    answer

/-- The connection with both tracks opened or shut. -/
def setTracksOpen (wanted : Bool) (c : Connection) : Connection :=
  { c with video := c.video.map (·.setOpen wanted), audio := c.audio.map (·.setOpen wanted) }

def isVideoOpen (c : Connection) : Bool := c.video.any (·.isOpen)

def isAudioOpen (c : Connection) : Bool := c.audio.any (·.isOpen)

def writeVideo (c : Connection) (data : Bytes) (timestamp : Nat) (answer : Nat → SinkAnswer) :
    Except Failure Unit × Connection :=
  match c.video with
  | none => (.error .noVideoTrack, c)
  | some track =>
    let write := track.write data timestamp answer
    (write.result, { c with video := some write.track, packets := c.packets ++ write.stored })

def writeAudio (c : Connection) (packet : AudioPacket) (answer : Except Failure Unit) :
    Except Failure Unit × Connection :=
  match c.audio with
  | none => (.error .audioNotEnabled, c)
  | some track =>
    let write := track.write packet answer
    (write.1, { c with samples := c.samples ++ write.2 })

end Connection

end LiveCamera
