import LiveCamera.Signaling.Action
import LiveCamera.Signaling.Message

/-!
# Joining a remote endpoint

A device that does not host the endpoint connects to one elsewhere, announces itself there, and
answers every request that arrives with its offer. The remote endpoint decides who owns the session.
-/

namespace LiveCamera.Signaling.Endpoint

/-- The number that stands for the one wire connection of this role. -/
def wire : Nat := 0

/-- The address under which a device joins a remote endpoint. -/
def url (address : String) (port : Nat) : String :=
  "ws://" ++ address ++ ":" ++ toString port ++ "/" ++ deviceId

def path : String := "/" ++ deviceId

/-- What the device says first. -/
def greeting : Action := .send wire (Message.request deviceId).text

/-- The connection to a remote endpoint, as the device remembers it. -/
inductive Link
  | absent
  | live
  /-- The remote endpoint closed the connection; the device has not let go of it yet. -/
  | ended
  deriving DecidableEq, Repr

/-- Joins the endpoint with the given address, and greets it. A device that remembers a connection
keeps it. An endpoint that cannot be reached is tried for `budget` milliseconds. -/
def join (link : Link) (reachable : Bool) (address : String) (budget : Nat) :
    Except Failure Unit × Link × List Action :=
  match link, reachable with
  | .absent, true => (.ok (), .live, [greeting])
  | .absent, false => (.error (.endpointUnreachable address budget), .absent, [])
  | link, _ => (.ok (), link, [])

/-- The remote endpoint closes the connection, and the session is without its viewer. -/
def hangUp : Link → Link × List Action
  | .live => (.ended, [.viewerLeft deviceId])
  | link => (link, [])

def leave (_ : Link) : Link := .absent

/-- What a message from the remote endpoint asks for. -/
def handle (m : Message) : List Action :=
  match m.type with
  | "request" => [.offer wire (m.id?.getD deviceId)]
  | "answer" => (m.sdp?.map .answer).toList
  | "candidate" => (m.candidate?.map fun c ↦ .candidate c m.mid?).toList
  | _ => []

/-- What a text from the remote endpoint asks for; one that is no message asks for nothing. -/
def receive (text : String) : List Action :=
  match Message.ofText text with
  | .error _ => []
  | .ok m => handle m

end LiveCamera.Signaling.Endpoint
