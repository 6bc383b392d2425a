import LiveCamera.Failure
import LiveCamera.Json.Reader
import LiveCamera.Json.Writer

/-!
# Signaling messages

A message is a JSON record with a type and usually an identifier: of the viewer it is about, or of
the endpoint it is addressed to. Types that the device does not know are passed on between viewers,
with all their fields. Messages are written with their fields in the order of the names.
-/

namespace LiveCamera.Signaling

open Json

/-- The identifier of the device. -/
def deviceId : String := "server"

/-- A message that has a type. -/
structure Message where
  /-- The fields in the order of their names. -/
  fields : List (String × Datum)
  deriving Repr

namespace Message

/-- The field with the given name, if it is text. -/
def textField? (m : Message) (name : String) : Option String :=
  match m.fields.lookup name with
  | some (.string text) => some text
  | _ => none

def type (m : Message) : String := (m.textField? "type").getD ""

/-- The identifier of a message; an empty one counts as none. -/
def id? (m : Message) : Option String := (m.textField? "id").filter (!·.isEmpty)

def sdp? (m : Message) : Option String := m.textField? "sdp"

def candidate? (m : Message) : Option String := m.textField? "candidate"

/-- The media identifier of a candidate, which goes by two names. -/
def mid? (m : Message) : Option String := m.textField? "mid" <|> m.textField? "sdpMid"

/-- Whether a message has no other recipient than the device. -/
def isForDevice (m : Message) : Bool := m.id?.all (· == deviceId)

def ofText (text : String) : Except Failure Message :=
  match Datum.ofText? text with
  | none => .error .malformedText
  | some (.record fields) =>
    let m : Message := ⟨fields⟩
    if (m.textField? "type").isSome then .ok m else .error .messageWithoutType
  | some _ => .error .messageNotAnObject

def text (m : Message) : String := (Datum.record m.fields).text

/-- The message as it is passed on: its identifier says who sent it. -/
def relayedFrom (m : Message) (sender : String) : Message :=
  ⟨insertMember "id" (.string sender) m.fields⟩

def request (id : String) : Message :=
  ⟨[("id", .string id), ("type", .string "request")]⟩

def offer (id sdp : String) : Message :=
  ⟨[("id", .string id), ("sdp", .string sdp), ("type", .string "offer")]⟩

def answer (id sdp : String) : Message :=
  ⟨[("id", .string id), ("sdp", .string sdp), ("type", .string "answer")]⟩

/-- Turns a viewer away. -/
def busy (id : String) : Message :=
  ⟨[("id", .string id), ("type", .string "busy")]⟩

end Message

end LiveCamera.Signaling
