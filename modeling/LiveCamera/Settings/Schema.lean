import LiveCamera.Failure

/-!
# Settings

What a device is configured with, in three sections that are stored and replaced one by one. Codec
and rate control are kept as they were typed and read when they are needed.
-/

namespace LiveCamera

/-- What is streamed, and where viewers find it. -/
structure StreamSettings where
  /-- The address the viewer page is served on; blank for every interface. -/
  address : String
  port : Nat
  codec : String
  rateControl : String
  /-- Bits per second. -/
  bitrate : Nat
  /-- Frames from one key picture to the next. -/
  keyInterval : Nat
  /-- The address of a remote signaling endpoint; blank if the device hosts one itself. -/
  signalingAddress : String
  signalingPort : Nat
  /-- The ICE server for device and viewer; blank for none. -/
  iceServer : String
  servesPage : Bool
  deriving DecidableEq, Repr

namespace StreamSettings

def initial : StreamSettings where
  address := ""
  port := 8000
  codec := "h264"
  rateControl := "cbr"
  bitrate := 3000000
  keyInterval := 60
  signalingAddress := ""
  signalingPort := 8001
  iceServer := "stun:stun.l.google.com:19302"
  servesPage := true

/-- The address that stands for every interface. -/
def anyAddress : String := "0.0.0.0"

def bindAddress (s : StreamSettings) : String :=
  if (Text.trim s.address).isEmpty then anyAddress else Text.trim s.address

/-- Whether the device hosts the signaling endpoint. -/
def hostsSignaling (s : StreamSettings) : Bool := (Text.trim s.signalingAddress).isEmpty

/-- The codec, if the settings name one. -/
def codec? (s : StreamSettings) : Except Failure Codec :=
  (Codec.ofSetting s.codec).mapError .unknownCodec

/-- The rate-control mode, if the settings name one. -/
def rateControl? (s : StreamSettings) : Except Failure RateControl :=
  (RateControl.ofSetting s.rateControl).mapError .unknownRateControl

end StreamSettings

/-- How the sensor is mounted. -/
structure DeviceSettings where
  /-- The sensor's picture is upside down. -/
  flipped : Bool
  /-- The sensor's picture is mirrored left to right. -/
  mirrored : Bool
  deriving DecidableEq, Repr

namespace DeviceSettings

def initial : DeviceSettings := ⟨false, false⟩

end DeviceSettings

/-- Patience while a session is negotiated; times are in milliseconds. -/
structure NegotiationSettings where
  descriptionAttempts : Nat
  descriptionDelay : Nat
  connectAttempts : Nat
  connectPoll : Nat
  /-- The pause behind the close of a connection before the next one is made. -/
  resetSettle : Nat
  deriving DecidableEq, Repr

namespace NegotiationSettings

def initial : NegotiationSettings := ⟨10, 200, 50, 100, 100⟩

/-- How long a remote endpoint is tried; it is tried at least once. -/
def connectBudget (s : NegotiationSettings) : Nat := s.connectPoll * max s.connectAttempts 1

end NegotiationSettings

/-- All settings of a device. -/
structure Settings where
  stream : StreamSettings
  device : DeviceSettings
  negotiation : NegotiationSettings
  deriving DecidableEq, Repr

namespace Settings

def initial : Settings := ⟨.initial, .initial, .initial⟩

end Settings

end LiveCamera
