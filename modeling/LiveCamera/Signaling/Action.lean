import LiveCamera.Event

/-!
# What signaling asks for

Handling a message changes the bookkeeping of the endpoint and asks for effects outside of it. The
effects are listed in the order in which they are to be carried out.
-/

namespace LiveCamera.Signaling

/-- An effect outside the bookkeeping. -/
inductive Action
  /-- Send a text on a wire connection. -/
  | send (wire : Nat) (text : String)
  | publish (event : StreamEvent)
  /-- Wait for the local description, then send it to a client as an offer on the given
  connection. -/
  | offer (wire : Nat) (client : String)
  /-- Hand an answer to the session. -/
  | answer (sdp : String)
  /-- Hand a candidate to the session. -/
  | candidate (candidate : String) (mid : Option String)
  /-- The session's viewer has left. -/
  | viewerLeft (client : String)
  deriving DecidableEq, Repr

end LiveCamera.Signaling
