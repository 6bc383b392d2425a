import LiveCamera.Json.Fields
import LiveCamera.Json.Reader
import LiveCamera.Json.Writer
import LiveCamera.Settings.Schema

/-!
# Settings as text

Every section is a JSON record. Its fields are written in a fixed order; when it is read, fields
that are missing keep the values of a new device.
-/

namespace LiveCamera

open Json

def Json.Datum.ofNat (n : Nat) : Datum := .number (.int n)

namespace StreamSettings

def datum (s : StreamSettings) : Datum :=
  .record
    [("ip", .string s.address), ("port", .ofNat s.port), ("codec", .string s.codec),
      ("rate_control", .string s.rateControl), ("bitrate", .ofNat s.bitrate),
      ("gop", .ofNat s.keyInterval), ("signaling_ip", .string s.signalingAddress),
      ("signaling_port", .ofNat s.signalingPort), ("stun_server", .string s.iceServer),
      ("http_server", .bool s.servesPage)]

def ofNode? (node : Node) : Option StreamSettings := do
  let [address, port, codec, rateControl, bitrate, keyInterval, signalingAddress, signalingPort,
      iceServer, servesPage] ← node.fields? ["ip", "port", "codec", "rate_control", "bitrate",
        "gop", "signaling_ip", "signaling_port", "stun_server", "http_server"]
    | none
  return {
    address := ← optional initial.address Node.text? address
    port := ← optional initial.port (Node.nat? maxWord16) port
    codec := ← optional initial.codec Node.text? codec
    rateControl := ← optional initial.rateControl Node.text? rateControl
    bitrate := ← optional initial.bitrate (Node.nat? maxWord32) bitrate
    keyInterval := ← optional initial.keyInterval (Node.nat? maxWord32) keyInterval
    signalingAddress := ← optional initial.signalingAddress Node.text? signalingAddress
    signalingPort := ← optional initial.signalingPort (Node.nat? maxWord16) signalingPort
    iceServer := ← optional initial.iceServer Node.text? iceServer
    servesPage := ← optional initial.servesPage Node.bool? servesPage }

end StreamSettings

namespace DeviceSettings

def datum (s : DeviceSettings) : Datum :=
  .record [("cam_flip", .bool s.flipped), ("cam_mirror", .bool s.mirrored)]

def ofNode? (node : Node) : Option DeviceSettings := do
  let [flipped, mirrored] ← node.fields? ["cam_flip", "cam_mirror"] | none
  return {
    flipped := ← optional initial.flipped Node.bool? flipped
    mirrored := ← optional initial.mirrored Node.bool? mirrored }

end DeviceSettings

namespace NegotiationSettings

def datum (s : NegotiationSettings) : Datum :=
  .record
    [("description_attempts", .ofNat s.descriptionAttempts),
      ("description_delay_ms", .ofNat s.descriptionDelay),
      ("connect_attempts", .ofNat s.connectAttempts), ("connect_poll_ms", .ofNat s.connectPoll),
      ("reset_settle_ms", .ofNat s.resetSettle)]

def ofNode? (node : Node) : Option NegotiationSettings := do
  let [descriptionAttempts, descriptionDelay, connectAttempts, connectPoll, resetSettle] ←
      node.fields? ["description_attempts", "description_delay_ms", "connect_attempts",
        "connect_poll_ms", "reset_settle_ms"]
    | none
  return {
    descriptionAttempts :=
      ← optional initial.descriptionAttempts (Node.nat? maxWord32) descriptionAttempts
    descriptionDelay := ← optional initial.descriptionDelay (Node.nat? maxWord64) descriptionDelay
    connectAttempts := ← optional initial.connectAttempts (Node.nat? maxWord32) connectAttempts
    connectPoll := ← optional initial.connectPoll (Node.nat? maxWord64) connectPoll
    resetSettle := ← optional initial.resetSettle (Node.nat? maxWord64) resetSettle }

end NegotiationSettings

namespace Settings

def datum (s : Settings) : Datum :=
  .record [("stream", s.stream.datum), ("device", s.device.datum),
    ("negotiation", s.negotiation.datum)]

def ofNode? (node : Node) : Option Settings := do
  let [stream, device, negotiation] ← node.fields? ["stream", "device", "negotiation"] | none
  return {
    stream := ← optional .initial StreamSettings.ofNode? stream
    device := ← optional .initial DeviceSettings.ofNode? device
    negotiation := ← optional .initial NegotiationSettings.ofNode? negotiation }

def text (s : Settings) : String := s.datum.text

def ofText (text : String) : Except Failure Settings :=
  match (Node.ofText? text).bind ofNode? with
  | none => .error .malformedText
  | some settings => .ok settings

end Settings

end LiveCamera
