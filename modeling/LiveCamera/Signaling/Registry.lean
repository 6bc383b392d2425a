import LiveCamera.Signaling.Action
import LiveCamera.Signaling.Message

/-!
# The hosted endpoint

Viewers connect, register under the identifier of their first message and request the stream. At
most one of them owns the session; another one that requests it is turned away. An endpoint that
hosts viewers keeps them in a registry: the open wire connections, the registered clients, and the
owner.
-/

namespace LiveCamera.Signaling

inductive WireEvent
  /-- A connection was opened, possibly under a path that names the client. -/
  | connected (wire : Nat) (path : Option String)
  | message (wire : Nat) (text : String)
  | disconnected (wire : Nat)
  deriving DecidableEq, Repr

/-- An open wire connection. -/
structure Registration where
  wire : Nat
  /-- The client that registered on the connection. -/
  client : Option String
  /-- The identifier that messages without one stand for. -/
  path : Option String
  deriving DecidableEq, Repr

/-- The bookkeeping of a hosted endpoint. -/
structure Registry where
  connections : List Registration
  /-- The registered clients with their connections. -/
  clients : List (String × Nat)
  /-- The client that owns the session. -/
  owner : Option String
  deriving DecidableEq, Repr

/-- What registering the sender of a message came to. -/
inductive Enrollment
  | client (id : String)
  /-- The identifier belongs to another open connection. -/
  | duplicate (id : String)
  /-- The connection is not open. -/
  | gone
  deriving DecidableEq, Repr

namespace Registry

def empty : Registry := ⟨[], [], none⟩

def registration? (r : Registry) (wire : Nat) : Option Registration :=
  r.connections.find? (·.wire == wire)

def wire? (r : Registry) (client : String) : Option Nat := r.clients.lookup client

/-- The open connection of a registered client. -/
def reachable? (r : Registry) (client : String) : Option Nat :=
  (r.wire? client).bind fun wire ↦ (r.registration? wire).map (·.wire)

def isRegistered (r : Registry) (client : String) : Bool := (r.wire? client).isSome

/-- Opens a connection; one of the same number is replaced. -/
def connect (r : Registry) (wire : Nat) (path : Option String) : Registry :=
  { r with connections :=
    r.connections.filter (·.wire != wire) ++ [⟨wire, none, path.filter (!·.isEmpty)⟩] }

/-- The identifier under which a connection would register with this message. -/
def identify (registration : Registration) (m : Message) : String :=
  (m.id?.orElse fun _ ↦ registration.path).getD ("client_" ++ toString registration.wire)

/-- Registers the sender of a message, unless it is registered already. -/
def enroll (r : Registry) (wire : Nat) (m : Message) : Enrollment × Registry :=
  match r.registration? wire with
  | none => (.gone, r)
  | some registration =>
    match registration.client with
    | some id => (.client id, r)
    | none =>
      let id := identify registration m
      if (r.wire? id).any (· != wire) then (.duplicate id, r)
      else
        (.client id,
          { r with
            connections := r.connections.map fun c ↦
              if c.wire = wire then { c with client := some id } else c
            clients := r.clients.filter (·.1 != id) ++ [(id, wire)] })

/-- A registered client requests the stream. It becomes the owner unless another registered client
is. -/
def request (r : Registry) (wire : Nat) (client : String) : List Action × Registry :=
  if r.owner.any fun owner ↦ owner != client && r.isRegistered owner then
    ([.send wire (Message.busy client).text, .publish (.viewerRejected client)], r)
  else
    ([.publish (.viewerConnected client), .offer wire client], { r with owner := some client })

/-- A registered client answers. Only the owner's answer counts, if there is an owner. -/
def answer (r : Registry) (client : String) (m : Message) : List Action :=
  if r.owner.any (· != client) then [] else (m.sdp?.map .answer).toList

/-- Passes a message on to the client that it names, unless that is the sender itself. -/
def relay (r : Registry) (sender : String) (m : Message) : List Action :=
  match (m.id?.filter (· != sender)).bind r.reachable? with
  | none => []
  | some wire => [.send wire (m.relayedFrom sender).text]

/-- A registered client sends a message. -/
def handle (r : Registry) (wire : Nat) (client : String) (m : Message) : List Action × Registry :=
  match m.type with
  | "request" => r.request wire client
  | "answer" => (r.answer client m, r)
  | "candidate" =>
    if m.isForDevice then ((m.candidate?.map fun c ↦ .candidate c m.mid?).toList, r)
    else (r.relay client m, r)
  | _ => (r.relay client m, r)

/-- A text arrives. One that is no message changes nothing. -/
def receive (r : Registry) (wire : Nat) (text : String) : List Action × Registry :=
  match Message.ofText text with
  | .error _ => ([], r)
  | .ok m =>
    match r.enroll wire m with
    | (.gone, r) => ([], r)
    | (.duplicate id, r) =>
      ([.send wire (Message.busy id).text, .publish (.viewerRejected id)], r)
    | (.client id, r) => r.handle wire id m

/-- A connection closes. A client that owned the session, or that leaves while nobody does, leaves
the session without its viewer. -/
def disconnect (r : Registry) (wire : Nat) : List Action × Registry :=
  match r.registration? wire with
  | none => ([], r)
  | some registration =>
    let rest := { r with connections := r.connections.filter (·.wire != wire) }
    match registration.client with
    | none => ([], rest)
    | some client =>
      let rest := { rest with clients := rest.clients.filter (·.1 != client) }
      let owned := r.owner.all (· == client)
      (.publish (.viewerDisconnected client) :: (if owned then [.viewerLeft client] else []),
        if owned then { rest with owner := none } else rest)

/-- The effects of one event on the wire, and the registry after it. -/
def dispatch (r : Registry) : WireEvent → List Action × Registry
  | .connected wire path => ([], r.connect wire path)
  | .message wire text => r.receive wire text
  | .disconnected wire => r.disconnect wire

/-- The registered clients in the order of their names. -/
def clientNames (r : Registry) : List String :=
  (r.clients.map (·.1)).mergeSort fun a b ↦ !decide (b < a)

end Registry

end LiveCamera.Signaling
