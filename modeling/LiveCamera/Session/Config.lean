import LiveCamera.Settings.Schema

/-!
# Session parameters

What a session is built with, taken from the settings, and how patiently a session description is
waited for. Times are in milliseconds.
-/

namespace LiveCamera

/-- What every connection of a session is made with. -/
structure SessionConfig where
  codec : Codec
  iceServers : List String
  audio : Bool
  /-- The pause behind the close of a connection before the next one is made. -/
  resetSettle : Nat
  deriving DecidableEq, Repr

namespace SessionConfig

def ofSettings (stream : StreamSettings) (negotiation : NegotiationSettings) (audio : Bool) :
    Except Failure SessionConfig := do
  let codec ← stream.codec?
  let server := Text.trim stream.iceServer
  return ⟨codec, if server.isEmpty then [] else [server], audio, negotiation.resetSettle⟩

end SessionConfig

/-- How often a session description is asked for, and the pause in between. -/
structure DescriptionRetry where
  attempts : Nat
  delay : Nat
  deriving DecidableEq, Repr

namespace DescriptionRetry

/-- The patience that settings ask for; there is at least one attempt. -/
def ofSettings (s : NegotiationSettings) : DescriptionRetry :=
  ⟨max s.descriptionAttempts 1, s.descriptionDelay⟩

def initial : DescriptionRetry := ofSettings .initial

/-- An upper bound of the waiting. -/
def budget (r : DescriptionRetry) : Nat := r.delay * r.attempts

end DescriptionRetry

end LiveCamera
