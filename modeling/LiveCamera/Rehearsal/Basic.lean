import LiveCamera.Rehearsal.Script
import LiveCamera.Session.Basic
import LiveCamera.Signaling.Endpoint
import LiveCamera.Signaling.Registry

/-!
# Rehearsals

A rehearsal runs a session and its signaling against a scripted transport, on a clock of its own
that moves only when it is told to. Work that goes on by itself is a list of jobs: those that are
ready run in order, those that wait for a time become ready when the clock reaches it. The session
is rebuilt by one at a time; whoever finds it in use waits for its turn. Every job that runs leaves
less to do, so running all of them ends.
-/

namespace LiveCamera

/-- Work that goes on by itself. -/
inductive Job
  /-- Tell the session what a connection reports. -/
  | report (place : Nat) (event : TransportEvent)
  | reset
  /-- It is the turn of a reset that had to wait. -/
  | granted
  /-- The second half of a reset. -/
  | rebuild
  /-- Offer the local description to a client, looking for it at most so many times. -/
  | offer (wire : Nat) (client : String) (attempts : Nat)
  deriving DecidableEq, Repr

namespace Job

/-- How much there is left to do in a job, waiting included. -/
def weight : Job → Nat
  | report .. => 1
  | reset => 6
  | granted => 4
  | rebuild => 2
  | offer _ _ attempts => 2 * attempts + 1

end Job

/-- A session and its signaling in rehearsal. -/
structure Rehearsal where
  script : TransportScript
  session : Session
  /-- The packets that the video sink of each connection takes. -/
  packetLimits : List (Option Nat)
  /-- The time in milliseconds. -/
  clock : Nat
  /-- The jobs that can run now, in order. -/
  ready : List Job
  /-- The jobs that wait for a time, in the order in which they began to wait. -/
  sleeping : List (Nat × Job)
  /-- Whether the session is being rebuilt. -/
  rebuilding : Bool
  /-- The number of resets that wait for their turn. -/
  waiting : Nat
  /-- How the resets that went on by themselves ended. -/
  finished : List (Except Failure Unit)
  retry : DescriptionRetry
  /-- Whether the session is reset when its viewer leaves. -/
  resetsForNextViewer : Bool
  /-- The connection to a remote endpoint; none if the device hosts the endpoint itself. -/
  link : Option Signaling.Endpoint.Link
  registry : Signaling.Registry
  /-- The number of the next wire connection. -/
  nextWire : Nat
  /-- The texts sent so far, with the wire connections they were sent on. -/
  outbox : List (Nat × String)
  /-- The viewers that left the session so far. -/
  departed : List String

namespace Rehearsal

def new (script : TransportScript) (config : SessionConfig) (retry : DescriptionRetry)
    (resetsForNextViewer : Bool) : Rehearsal :=
  ⟨script, .new config [], [], 0, [], [], false, 0, [], retry, resetsForNextViewer, none,
    .empty, 1, [], []⟩

/-! ## Time -/

def after (r : Rehearsal) (delay : Nat) (job : Job) : Rehearsal :=
  if delay = 0 then { r with ready := job :: r.ready }
  else { r with sleeping := r.sleeping ++ [(r.clock + delay, job)] }

/-- The time at which the next sleeping job becomes ready. -/
def nextDue? (r : Rehearsal) : Option Nat := (r.sleeping.map (·.1)).min?

/-- Moves the clock and wakes the jobs whose time has come. -/
def wake (r : Rehearsal) (time : Nat) : Rehearsal :=
  { r with
    clock := time
    ready := r.ready ++ (r.sleeping.filter (·.1 ≤ time)).map (·.2)
    sleeping := r.sleeping.filter (time < ·.1) }

/-- How much there is left to do. -/
def weight (r : Rehearsal) : Nat :=
  (r.ready.map Job.weight).foldr (· + ·) 0 +
    (r.sleeping.map fun s ↦ s.2.weight + 1).foldr (· + ·) 0 + 5 * r.waiting

/-! ## Jobs -/

/-- Ends a rebuilding; the next reset that waits takes its turn. -/
def release (r : Rehearsal) : Rehearsal :=
  match r.waiting with
  | 0 => { r with rebuilding := false }
  | n + 1 => { r with waiting := n, ready := r.ready ++ [.granted] }

/-- Remembers how many packets the sinks of new connections take. -/
def noteLimits (r : Rehearsal) : Rehearsal :=
  { r with packetLimits := r.packetLimits ++
    List.replicate (r.session.connections.length - r.packetLimits.length) r.script.packetLimit }

/-- Replaces the session, whose new connections follow the script. -/
def withSession (r : Rehearsal) (session : Session) : Rehearsal :=
  ({ r with session } : Rehearsal).noteLimits

/-- The second half of a reset that goes on by itself. -/
def finishReset (r : Rehearsal) : Rehearsal :=
  let rebuilt := r.session.rebuild r.script.answers
  let r := r.withSession rebuilt.2
  ({ r with finished := r.finished ++ [rebuilt.1] } : Rehearsal).release

/-- The first half of a reset that goes on by itself. -/
def beginReset (r : Rehearsal) : Rehearsal :=
  let r := { r with rebuilding := true }
  if r.session.shutdown then
    ({ r with finished := r.finished ++ [.error .sessionClosed] } : Rehearsal).release
  else if r.session.current.isNone then r.finishReset
  else
    ({ r with session := r.session.giveUp (r.script.verdict .close) } : Rehearsal).after
      r.session.config.resetSettle .rebuild

/-- Whether texts reach whom they are sent to. -/
def isHeard (r : Rehearsal) : Bool := r.link.all (· == .live)

/-- Looks for the local description and sends it; without one, the next look follows after a
pause. -/
def tryOffer (r : Rehearsal) (wire : Nat) (client : String) : Nat → Rehearsal
  | 0 => r
  | attempts + 1 =>
    let sdp := r.session.localDescription
    if !sdp.isEmpty then
      if !r.isHeard then r
      else { r with outbox := r.outbox ++ [(wire, (Signaling.Message.offer client sdp).text)] }
    else if attempts = 0 then r
    else r.after r.retry.delay (.offer wire client attempts)

def run (r : Rehearsal) : Job → Rehearsal
  | .report place event => { r with session := r.session.report place event }
  | .reset => if r.rebuilding then { r with waiting := r.waiting + 1 } else r.beginReset
  | .granted => r.beginReset
  | .rebuild => r.finishReset
  | .offer wire client attempts => r.tryOffer wire client attempts

/-- Runs jobs as they become ready until `done` holds and no job is ready, or nothing is due up to
the given time. -/
def runUntil (done : Rehearsal → Bool) (limit : Option Nat) : Nat → Rehearsal → Rehearsal
  | 0, r => r
  | fuel + 1, r =>
    match r.ready with
    | job :: rest => runUntil done limit fuel (({ r with ready := rest } : Rehearsal).run job)
    | [] =>
      if done r then r
      else
        match r.nextDue? with
        | none => r
        | some due =>
          if limit.any (· < due) then r else runUntil done limit fuel (r.wake due)

/-- Runs every job that does not need time to pass. -/
def settle (r : Rehearsal) : Rehearsal :=
  runUntil (fun _ ↦ false) (some r.clock) (r.weight + 1) r

def advance (r : Rehearsal) (delay : Nat) : Rehearsal :=
  let time := r.clock + delay
  { runUntil (fun _ ↦ false) (some time) (r.weight + 1) r with clock := time }

/-- Lets time pass until nobody rebuilds the session. -/
def awaitTurn (r : Rehearsal) : Rehearsal :=
  runUntil (!·.rebuilding) none (r.weight + 1) r

/-- Lets time pass, up to the moment at which the jobs due at its end become ready. -/
def pause (r : Rehearsal) (delay : Nat) : Rehearsal :=
  if delay = 0 then r
  else { r.advance (delay - 1) with clock := r.clock + delay }

end Rehearsal

end LiveCamera
