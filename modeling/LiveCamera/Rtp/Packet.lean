import LiveCamera.Bytes

/-!
# RTP packets

All packets of one access unit carry its timestamp, and the marker is set on the last of them.
Sequence numbers count packets and wrap after 2¹⁶.
-/

namespace LiveCamera.Rtp

def videoPayloadType : Nat := 96

def audioPayloadType : Nat := 97

/-- The source identifier of the video stream. -/
def videoSource : Nat := 1

/-- Ticks per second of video timestamps. -/
def videoClockRate : Nat := 90000

/-- The longest payload of a packet. -/
def payloadLimit : Nat := 1200

/-- One packet of a media stream. -/
structure Packet where
  sequence : UInt16
  timestamp : UInt32
  /-- Set on the last packet of an access unit. -/
  marker : Bool
  payloadType : Nat
  source : Nat
  payload : Bytes
  deriving DecidableEq, Repr

/-- The packets for the payloads of one access unit, numbered from `first`. -/
def packets (first : UInt16) (timestamp : UInt32) : List Bytes → List Packet
  | [] => []
  | payload :: rest =>
    ⟨first, timestamp, rest.isEmpty, videoPayloadType, videoSource, payload⟩ ::
      packets (first + 1) timestamp rest

@[simp] theorem length_packets (first : UInt16) (timestamp : UInt32) (payloads : List Bytes) :
    (packets first timestamp payloads).length = payloads.length := by
  induction payloads generalizing first with
  | nil => rfl
  | cons payload rest ih => simp [packets, ih]

/-- Packets carry the payloads, in order. -/
theorem map_payload_packets (first : UInt16) (timestamp : UInt32) (payloads : List Bytes) :
    (packets first timestamp payloads).map (·.payload) = payloads := by
  induction payloads generalizing first with
  | nil => rfl
  | cons payload rest ih => simp [packets, ih]

end LiveCamera.Rtp
