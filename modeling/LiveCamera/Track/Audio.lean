import LiveCamera.Bytes
import LiveCamera.Failure
import LiveCamera.Track.Gate

/-!
# Audio tracks

Audio arrives already encoded, one packet with its playing time at a time, and goes to the
connection's sink as it is.
-/

namespace LiveCamera

/-- Samples per second of the audio offered to a viewer. -/
def audioSampleRate : Nat := 48000

def audioChannels : Nat := 2

/-- One encoded audio packet. -/
structure AudioPacket where
  data : Bytes
  /-- The playing time in microseconds. -/
  duration : Nat
  deriving DecidableEq, Repr, Inhabited

/-- An outgoing audio track. -/
structure AudioTrack where
  /-- The generation of the connection the track belongs to. -/
  generation : Nat
  gate : Gate
  deriving DecidableEq, Repr, Inhabited

namespace AudioTrack

def new (generation : Nat) : AudioTrack := ⟨generation, .shut⟩

def isOpen (t : AudioTrack) : Bool := t.gate.isOpen

/-- Opens or shuts the track, unless it was closed. -/
def setOpen (t : AudioTrack) (wanted : Bool) : AudioTrack := { t with gate := t.gate.set wanted }

def close (t : AudioTrack) : AudioTrack := { t with gate := t.gate.lock }

/-- Sends one packet to a sink that answers `answer`: what the caller is told, and what the sink
stored. -/
def write (t : AudioTrack) (packet : AudioPacket) (answer : Except Failure Unit) :
    Except Failure Unit × List AudioPacket :=
  if packet.data.isEmpty then (.error .emptyAudioPacket, [])
  else if !t.isOpen then (.error .audioTrackNotOpen, [])
  else
    match answer with
    | .error cause => (.error cause, [])
    | .ok _ => (.ok (), [packet])

end AudioTrack

end LiveCamera
