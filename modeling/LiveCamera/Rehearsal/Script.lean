import LiveCamera.Session.Connection

/-!
# Scripted transports

A transport for rehearsals makes connections that only record what is asked of them. Its script says
which calls fail, what it offers, and how many packets a video sink takes.
-/

namespace LiveCamera

/-- The calls that a scripted transport can fail. -/
inductive TransportCall
  | connect
  | video
  | audio
  | offer
  | candidate
  | close
  deriving DecidableEq, Repr

namespace TransportCall

def name : TransportCall → String
  | connect => "connect"
  | video => "video"
  | audio => "audio"
  | offer => "offer"
  | candidate => "candidate"
  | close => "close"

def all : List TransportCall := [connect, video, audio, offer, candidate, close]

def ofName? (name : String) : Option TransportCall := all.find? (·.name == name)

end TransportCall

/-- What a scripted transport does. -/
structure TransportScript where
  failing : List TransportCall
  /-- Whether an offer leaves no local description. -/
  withholding : Bool
  /-- The local description that an offer leaves. -/
  offer : String
  /-- The number of packets a new video sink takes before it fails. -/
  packetLimit : Option Nat
  deriving DecidableEq, Repr

namespace TransportScript

/-- An offer with a candidate of either address family. -/
def usualOffer : String :=
  "v=0\r\na=candidate:1 1 udp 1 10.0.0.2 5000 typ host\r\n" ++
    "a=candidate:2 1 udp 1 fe80::1 5001 typ host\r\na=mid:0\r\n"

/-- A transport on which everything works. -/
def working : TransportScript := ⟨[], false, usualOffer, none⟩

def verdict (script : TransportScript) (call : TransportCall) : Except Failure Unit :=
  if call ∈ script.failing then .error (.reported .transport (call.name ++ " failed")) else .ok ()

/-- The answers while a connection is made and set up. -/
def answers (script : TransportScript) : TransportAnswers where
  connect := script.verdict .connect
  addVideo := script.verdict .video
  addAudio := script.verdict .audio
  createOffer := (script.verdict .offer).map fun _ ↦
    if script.withholding then none else some script.offer
  close := script.verdict .close
  firstSequence := 0

/-- The answer to a remote description, which has to start with its version. -/
def answerVerdict (sdp : String) : Except Failure Unit :=
  if "v=0".toList.isPrefixOf sdp.toList then .ok ()
  else .error (.reported .transport "malformed answer")

/-- What becomes of the packet with number `index` of a write to a sink that holds `held` packets
and takes at most `limit`. -/
def sinkAnswer (limit : Option Nat) (held index : Nat) : SinkAnswer :=
  if limit.any (· ≤ held + index) then .failed (.reported .transport "rtp write failed")
  else .stored

end TransportScript

end LiveCamera
