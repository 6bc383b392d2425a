import LiveCamera.Avc.Payload
import LiveCamera.Failure
import LiveCamera.Hevc.Payload
import LiveCamera.Rtp.Packet

/-!
# Payloaders

A payloader turns access units into payloads and remembers what later access units need. Which one
is used follows from the codec.
-/

namespace LiveCamera.Rtp

/-- How access units become payloads, with a memory of type `σ`. -/
abbrev Payloading (σ : Type) := σ → Bytes → Except Failure (List Bytes) × σ

/-- The payloader of either codec. -/
inductive Payloader
  | h264 (memory : Avc.Payloader)
  | h265 (memory : Hevc.Payloader)
  deriving DecidableEq, Repr

namespace Payloader

/-- The payloader for a codec, at the start of a stream. -/
def ofCodec : Codec → Payloader
  | .h264 => h264 .fresh
  | .h265 => h265 .fresh

/-- The payloads for one access unit, none longer than the limit. -/
def payload : Payloading Payloader
  | h264 memory, data =>
    let sent := memory.payload payloadLimit data
    (.ok sent.1, h264 sent.2)
  | h265 memory, data =>
    let sent := memory.payload payloadLimit data
    (.ok sent.1, h265 sent.2)

end Payloader

end LiveCamera.Rtp
