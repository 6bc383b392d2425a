/-!
# States of a session and of its connection
-/

namespace LiveCamera

/-- How far a session has come. -/
inductive SessionState
  /-- No connection was made yet. -/
  | idle
  /-- A connection waits for a viewer. -/
  | negotiating
  | connected
  /-- The connection was given up or lost. -/
  | closed
  deriving DecidableEq, Repr, Inhabited

namespace SessionState

def name : SessionState → String
  | idle => "idle"
  | negotiating => "negotiating"
  | connected => "connected"
  | closed => "closed"

def all : List SessionState := [idle, negotiating, connected, closed]

theorem mem_all (s : SessionState) : s ∈ all := by
  cases s <;> decide

end SessionState

/-- What the transport reports about a connection. -/
inductive ConnectionState
  | new
  | connecting
  | connected
  | disconnected
  | failed
  | closed
  deriving DecidableEq, Repr, Inhabited

namespace ConnectionState

def name : ConnectionState → String
  | new => "new"
  | connecting => "connecting"
  | connected => "connected"
  | disconnected => "disconnected"
  | failed => "failed"
  | closed => "closed"

def all : List ConnectionState := [new, connecting, connected, disconnected, failed, closed]

theorem mem_all (s : ConnectionState) : s ∈ all := by
  cases s <;> decide

end ConnectionState

end LiveCamera
