import LiveCamera.Rehearsal.Basic

/-!
# Steps of a rehearsal

What the device, the viewers and the network do in a rehearsal, one step at a time. After a step
everything that does not need time to pass has been done.
-/

namespace LiveCamera.Rehearsal

/-! ## The device -/

/-- Makes the first connection, in its turn. -/
def openSession (r : Rehearsal) : Except Failure Unit × Rehearsal :=
  let r := r.awaitTurn
  let opened := r.session.establish r.script.answers
  (opened.1, (r.withSession opened.2).settle)

/-- Replaces the connection, in its turn, and waits until that is done. -/
def resetSession (r : Rehearsal) : Except Failure Unit × Rehearsal :=
  let r := r.awaitTurn
  if r.session.shutdown then (.error .sessionClosed, r.settle)
  else
    let r :=
      if r.session.current.isNone then r
      else
        ({ r with session := r.session.giveUp (r.script.verdict .close) } : Rehearsal).pause
          r.session.config.resetSettle
    let rebuilt := r.session.rebuild r.script.answers
    (rebuilt.1, (r.withSession rebuilt.2).settle)

/-- Gives the connection up for good, in its turn. -/
def closeSession (r : Rehearsal) : Rehearsal :=
  let r := r.awaitTurn
  ({ r with session := r.session.close (r.script.verdict .close) } : Rehearsal).settle

/-- Starts a reset that goes on by itself. -/
def startReset (r : Rehearsal) : Rehearsal :=
  ({ r with ready := r.ready ++ [.reset] } : Rehearsal).settle

/-- Sends an access unit on the track of a connection. -/
def writeVideo (r : Rehearsal) (place : Nat) (data : Bytes) (timestamp : Nat) :
    Except Failure Unit × Rehearsal :=
  let held := ((r.session.connections[place]?).map (·.packets.length)).getD 0
  let limit := (r.packetLimits[place]?).bind id
  let write := r.session.writeVideo place data timestamp (TransportScript.sinkAnswer limit held)
  (write.1, { r with session := write.2 })

def writeAudio (r : Rehearsal) (place : Nat) (packet : AudioPacket) :
    Except Failure Unit × Rehearsal :=
  let write := r.session.writeAudio place packet (.ok ())
  (write.1, { r with session := write.2 })

def pushVideo (r : Rehearsal) (data : Bytes) (timestamp : Nat) : Except Failure Unit × Rehearsal :=
  match r.session.current with
  | none => (.error .noVideoTrack, r)
  | some place => r.writeVideo place data timestamp

def pushAudio (r : Rehearsal) (packet : AudioPacket) : Except Failure Unit × Rehearsal :=
  match r.session.current with
  | none => (.error .audioNotEnabled, r)
  | some place => r.writeAudio place packet

/-! ## The network -/

def emit (r : Rehearsal) (place : Nat) (event : TransportEvent) : Rehearsal :=
  ({ r with ready := r.ready ++ [.report place event] } : Rehearsal).settle

/-- The local description of a connection becomes another one. -/
def setLocalDescription (r : Rehearsal) (place : Nat) (sdp : String) : Rehearsal :=
  { r with session := r.session.modify place fun c ↦ { c with localDescription := some sdp } }

/-- Applies a viewer's answer. The connection reports that it is up once it has accepted one. -/
def applyAnswer (r : Rehearsal) (sdp : String) : Rehearsal :=
  match r.session.answerTarget? sdp, TransportScript.answerVerdict sdp with
  | some place, .ok _ =>
    { r with
      session := r.session.applyAnswer sdp (.ok ())
      ready := r.ready ++ [.report place (.stateChanged .connected)] }
  | _, _ => r

def addCandidate (r : Rehearsal) (candidate : String) (mid : Option String) : Rehearsal :=
  { r with session := r.session.addCandidate candidate mid (r.script.verdict .candidate) }

/-! ## Signaling -/

/-- Carries out what signaling asks for. -/
def perform (r : Rehearsal) : Signaling.Action → Rehearsal
  | .send wire text => { r with outbox := r.outbox ++ [(wire, text)] }
  | .publish event => { r with session := r.session.publish event }
  | .offer wire client => { r with ready := r.ready ++ [.offer wire client r.retry.attempts] }
  | .answer sdp => r.applyAnswer sdp
  | .candidate candidate mid => r.addCandidate candidate mid
  | .viewerLeft client =>
    { r with
      departed := r.departed ++ [client]
      ready := if r.resetsForNextViewer then r.ready ++ [.reset] else r.ready }

/-- Carries out several things in order, and everything that follows at once. -/
def performAll (r : Rehearsal) (actions : List Signaling.Action) : Rehearsal :=
  (actions.foldl perform r).settle

/-- Something happens on the wire of the hosted endpoint. -/
def dispatch (r : Rehearsal) (event : Signaling.WireEvent) : Rehearsal :=
  let handled := r.registry.dispatch event
  ({ r with registry := handled.2 } : Rehearsal).performAll handled.1

/-- A viewer opens a wire connection; it gets the next number unless it has one. -/
def connect (r : Rehearsal) (path : Option String) (wire : Option Nat) : Nat × Rehearsal :=
  match wire with
  | some wire => (wire, r.dispatch (.connected wire path))
  | none =>
    (r.nextWire, ({ r with nextWire := r.nextWire + 1 } : Rehearsal).dispatch
      (.connected r.nextWire path))

/-- The endpoint stops and forgets its viewers. -/
def stopEndpoint (r : Rehearsal) : Rehearsal := { r with registry := .empty }

/-! ## A remote endpoint -/

/-- The device joins a remote endpoint. -/
def join (r : Rehearsal) (reachable : Bool) (address : String) (budget : Nat) :
    Except Failure Unit × Rehearsal :=
  let joined := Signaling.Endpoint.join (r.link.getD .absent) reachable address budget
  (joined.1, ({ r with link := some joined.2.1 } : Rehearsal).performAll joined.2.2)

/-- A text arrives from the remote endpoint. -/
def receive (r : Rehearsal) (text : String) : Rehearsal :=
  if r.isHeard then r.performAll (Signaling.Endpoint.receive text) else r

/-- The remote endpoint closes the connection. -/
def hangUp (r : Rehearsal) : Rehearsal :=
  let ended := Signaling.Endpoint.hangUp (r.link.getD .absent)
  ({ r with link := some ended.1 } : Rehearsal).performAll ended.2

/-- Whether an offer is still to be sent. -/
def isOffering (r : Rehearsal) : Bool :=
  (r.ready ++ r.sleeping.map (·.2)).any fun
    | .offer .. => true
    | _ => false

/-- The longest time in milliseconds that leaving an endpoint waits for offers to be sent. -/
def leavePatience : Nat := 1000

/-- The device leaves the remote endpoint. It waits a while for offers that are still to be sent. -/
def leave (r : Rehearsal) : Rehearsal :=
  if r.link.all (· == .absent) then r
  else
    let time := r.clock + leavePatience
    let waited := runUntil (!·.isOffering) (some time) (r.weight + 1) r
    let waited := if waited.isOffering then { waited with clock := time } else waited
    { waited with link := waited.link.map Signaling.Endpoint.leave }

end LiveCamera.Rehearsal
