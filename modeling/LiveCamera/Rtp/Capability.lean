import LiveCamera.Codec
import LiveCamera.Rtp.Packet
import LiveCamera.Track.Audio

/-!
# Media capabilities

What is offered to a viewer for each kind of media.
-/

namespace LiveCamera.Rtp

/-- An offered kind of media. -/
structure Capability where
  mediaType : String
  /-- Ticks per second. -/
  clockRate : Nat
  /-- Zero for video. -/
  channels : Nat
  formatParameters : String
  /-- What a viewer may report back: a type, and maybe what it is about. -/
  feedback : List (String × String)
  deriving DecidableEq, Repr

namespace Capability

def video (codec : Codec) : Capability where
  mediaType := codec.mediaType
  clockRate := videoClockRate
  channels := 0
  formatParameters := codec.formatParameters
  feedback := [("goog-remb", ""), ("nack", ""), ("nack", "pli")]

def audio : Capability where
  mediaType := "audio/opus"
  clockRate := audioSampleRate
  channels := audioChannels
  formatParameters := "minptime=10;useinbandfec=1"
  feedback := []

end Capability

end LiveCamera.Rtp
