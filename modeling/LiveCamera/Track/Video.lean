import LiveCamera.Rtp.Payloader
import LiveCamera.Track.Gate

/-!
# Video tracks

A track belongs to one connection. It packetizes access units and hands the packets one after the
other to the connection's sink, which may fail at any packet; the connection may also be given up
between two packets. The track then stops at once, so that what reached the sink is a part from the
front.
-/

namespace LiveCamera

/-- What becomes of one packet handed to a sink. -/
inductive SinkAnswer
  | stored
  /-- The packet was stored, and the track was closed right after. -/
  | storedThenClosed
  | failed (cause : Failure)
  deriving DecidableEq, Repr

/-- An outgoing video track whose payloader remembers a `σ`. -/
structure VideoTrack (σ : Type) where
  codec : Codec
  /-- The generation of the connection the track belongs to. -/
  generation : Nat
  gate : Gate
  /-- The sequence number of the next packet. -/
  next : UInt16
  memory : σ
  /-- The number of access units sent completely. -/
  framesSent : Nat
  deriving DecidableEq, Repr

/-- The outcome of one write: what the caller is told, what the sink stored, and the track
afterwards. -/
structure VideoWrite (σ : Type) where
  result : Except Failure Unit
  stored : List Rtp.Packet
  track : VideoTrack σ

namespace VideoTrack

variable {σ : Type}

/-- A new track; its packets are numbered from `first`. -/
def new (codec : Codec) (generation : Nat) (first : UInt16) (memory : σ) : VideoTrack σ :=
  ⟨codec, generation, .shut, first, memory, 0⟩

/-- The track for a codec with the payloader that belongs to it. -/
def ofCodec (codec : Codec) (generation : Nat) (first : UInt16) : VideoTrack Rtp.Payloader :=
  new codec generation first (.ofCodec codec)

def isOpen (t : VideoTrack σ) : Bool := t.gate.isOpen

/-- Opens or shuts the track, unless it was closed. -/
def setOpen (t : VideoTrack σ) (wanted : Bool) : VideoTrack σ :=
  { t with gate := t.gate.set wanted }

def close (t : VideoTrack σ) : VideoTrack σ := { t with gate := t.gate.lock }

/-- Hands packets to the sink, which answers the packet with number `index` by `answer index`. -/
def send (answer : Nat → SinkAnswer) (index : Nat) (gate : Gate) :
    List Rtp.Packet → Except Failure Unit × List Rtp.Packet × Gate
  | [] => (.ok (), [], gate)
  | packet :: rest =>
    if gate.locked then (.error .videoTrackClosed, [], gate)
    else
      match answer index with
      | .failed cause => (.error cause, [], gate)
      | .stored =>
        let later := send answer (index + 1) gate rest
        (later.1, packet :: later.2.1, later.2.2)
      | .storedThenClosed =>
        let later := send answer (index + 1) gate.lock rest
        (later.1, packet :: later.2.1, later.2.2)

/-- Sends one access unit. Nothing happens to a refused one: no sequence number is used and the
payloader does not see it. -/
def writeWith (payload : Rtp.Payloading σ) (t : VideoTrack σ) (data : Bytes) (timestamp : Nat)
    (answer : Nat → SinkAnswer) : VideoWrite σ :=
  if data.isEmpty then ⟨.error .emptyAccessUnit, [], t⟩
  else if !t.isOpen then ⟨.error .videoTrackNotOpen, [], t⟩
  else
    match payload t.memory data with
    | (.error cause, memory) => ⟨.error cause, [], { t with memory }⟩
    | (.ok payloads, memory) =>
      let packets := Rtp.packets t.next (UInt32.ofNat timestamp) payloads
      let sent := send answer 0 t.gate packets
      ⟨sent.1, sent.2.1,
        { t with
          gate := sent.2.2
          next := t.next + UInt16.ofNat payloads.length
          memory
          framesSent := match sent.1 with
            | .ok _ => t.framesSent + 1
            | .error _ => t.framesSent }⟩

/-- Sends one access unit with the payloader of the track's codec. -/
def write (t : VideoTrack Rtp.Payloader) (data : Bytes) (timestamp : Nat)
    (answer : Nat → SinkAnswer) : VideoWrite Rtp.Payloader :=
  writeWith Rtp.Payloader.payload t data timestamp answer

end VideoTrack

end LiveCamera
