import LiveCamera.Json.Fields
import LiveCamera.Json.Reader
import LiveCamera.Json.Writer

/-!
# Stream events

What an application is told about streaming, session and viewers. As text an event is a record with
the name of the event and, if there is more to say, a record with the rest.
-/

namespace LiveCamera

open Json

/-- What happened. -/
inductive StreamEvent
  /-- Media and signaling are up; the role is `server` or `client`. -/
  | started (codec role : String)
  | stopped
  /-- The encoder delivered the first access unit where decoding can start. -/
  | keyframeReady
  | viewerConnected (client : String)
  | viewerDisconnected (client : String)
  | viewerRejected (client : String)
  /-- The session was rebuilt as the given generation. -/
  | sessionReset (generation : Nat)
  | sessionStateChanged (state : String)
  deriving DecidableEq, Repr, Inhabited

namespace StreamEvent

def name : StreamEvent → String
  | started .. => "stream.started"
  | stopped => "stream.stopped"
  | keyframeReady => "stream.keyframe_ready"
  | viewerConnected _ => "viewer.connected"
  | viewerDisconnected _ => "viewer.disconnected"
  | viewerRejected _ => "viewer.rejected"
  | sessionReset _ => "session.reset"
  | sessionStateChanged _ => "session.state_changed"

/-- The rest of an event, if there is more to say. -/
def contents : StreamEvent → Option Datum
  | started codec role =>
    some (.record [("codec", .string codec), ("signaling_role", .string role)])
  | stopped => none
  | keyframeReady => none
  | viewerConnected client => some (.record [("client_id", .string client)])
  | viewerDisconnected client => some (.record [("client_id", .string client)])
  | viewerRejected client => some (.record [("client_id", .string client)])
  | sessionReset generation => some (.record [("generation", .number (.int generation))])
  | sessionStateChanged state => some (.record [("state", .string state)])

def datum (e : StreamEvent) : Datum :=
  .record (("event", .string e.name) :: (e.contents.map fun rest ↦ ("data", rest)).toList)

/-- The values of fields that all have to be there, in a record that is written with its names. -/
def members? (names : List String) : Node → Option (List Node)
  | .record members => do
    let fields ← (Node.record members).fields? names
    fields.mapM id
  | _ => none

/-- An event from its name and the rest. -/
def ofParts? (name : String) (rest : Option Node) : Option StreamEvent :=
  let plain (event : StreamEvent) : Option StreamEvent :=
    match rest with
    | none | some .null => some event
    | some _ => none
  let single (field : String) (event : Node → Option StreamEvent) : Option StreamEvent := do
    let [value] ← members? [field] (← rest) | none
    event value
  let viewer (event : String → StreamEvent) : Option StreamEvent :=
    single "client_id" fun value ↦ value.text?.map event
  match name with
  | "stream.started" => do
    let [codec, role] ← members? ["codec", "signaling_role"] (← rest) | none
    return started (← codec.text?) (← role.text?)
  | "stream.stopped" => plain stopped
  | "stream.keyframe_ready" => plain keyframeReady
  | "viewer.connected" => viewer viewerConnected
  | "viewer.disconnected" => viewer viewerDisconnected
  | "viewer.rejected" => viewer viewerRejected
  | "session.reset" => single "generation" fun value ↦ (value.nat? maxWord64).map sessionReset
  | "session.state_changed" => single "state" fun value ↦ value.text?.map sessionStateChanged
  | _ => none

/-- The event that a node says: a list of name and rest, or a record with both. A rest that comes
before the name is looked at whole, since it is not known yet what it has to be. -/
def ofNode? : Node → Option StreamEvent
  | .list [name, rest] => do ofParts? (← name.text?) (some rest)
  | .record members =>
    if members.any (·.1.isNone) then none
    else
      match members.filter (fun m ↦ m.1 == some "event" || m.1 == some "data") with
      | [(some "event", name)] => do ofParts? (← name.text?) none
      | [(some "event", name), (some "data", rest)] => do ofParts? (← name.text?) (some rest)
      | [(some "data", rest), (some "event", name)] => do
        let _ ← rest.datum? (nestingLimit - 1)
        ofParts? (← name.text?) (some rest)
      | _ => none
  | _ => none

/-- The event that a text says. -/
def ofText? (text : String) : Option StreamEvent := (Node.ofText? text).bind ofNode?

def text (e : StreamEvent) : String := e.datum.text

end StreamEvent

end LiveCamera
