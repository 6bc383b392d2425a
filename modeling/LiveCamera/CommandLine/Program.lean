import LiveCamera.CommandLine.Arguments
import LiveCamera.Picture.TestPattern
import LiveCamera.Settings.Store
import LiveCamera.Streamer.Media

/-!
# The program

The program reads the stored settings, overrides them for one run, and starts streaming a recording
over a camera that draws a test pattern. Whatever fails on the way ends it.
-/

namespace LiveCamera.CommandLine

namespace Arguments

/-- The stream settings of a run: what the arguments say, and the stored settings where they say
nothing. -/
def override (a : Arguments) (s : StreamSettings) : StreamSettings :=
  { s with
    address := a.address.getD s.address
    port := a.httpPort.getD s.port
    codec := a.codec.getD s.codec
    rateControl := a.rateControl.getD s.rateControl
    bitrate := a.bitrate.getD s.bitrate
    signalingAddress := a.signalingAddress.getD s.signalingAddress
    signalingPort := a.signalingPort.getD s.signalingPort
    iceServer := a.stunServer.getD s.iceServer }

end Arguments

/-- What the program finds outside: the recording, if its file can be read, and the network. -/
structure Surroundings where
  recording : Option Bytes
  canListen : String → Nat → Bool
  canReach : String → Nat → Bool

namespace Surroundings

def answers (world : Surroundings) : StartAnswers Replay where
  encoder request :=
    match world.recording with
    | none => .error .fileFailed
    | some stream => Replay.ofStream request.videoType.codec stream
  audioReset := .ok ()
  transport := .working none
  canListen := world.canListen
  canReach := world.canReach
  closing := .ok ()

end Surroundings

/-- The number with the same 32 bits, read with a sign. -/
def signed (n : Nat) : Int := (n : Int).bmod 4294967296

def borderThickness : Int := 4

/-- Draws a border around the picture. A border that cannot be drawn is left out. -/
def drawBorder (s : Streamer Replay) (size : Size) : Streamer Replay :=
  { s with
    compositor := (s.compositor.drawRect 0 0 0 (signed size.width) (signed size.height) .green
      borderThickness).2 }

def stream (a : Arguments) (world : Surroundings) (settings : Settings) :
    Except Failure (Streamer Replay) := do
  let streamer ← Streamer.ofSettings { settings with stream := a.override settings.stream }
  let camera ← TestPattern.start a.resolution a.fps 0
  let bound := streamer.bindCamera ⟨camera.size, .nv21, camera.rate⟩
  bound.1
  let started := (drawBorder bound.2 camera.size).start world.answers
  started.1
  return started.2

/-- Starts the program on stored rows: the streamer, or why it does not stream, and the rows. -/
def launch (a : Arguments) (world : Surroundings) (rows : Rows) :
    Except Failure (Streamer Replay) × Rows :=
  match Store.openOn rows with
  | (.error cause, rows) => (.error cause, rows)
  | (.ok store, rows) => (stream a world store.settings, rows)

/-- The code with which the program ends after a refusal. -/
def Refusal.code : Refusal → Nat
  | .help | .version => 0
  | _ => 2

/-- The code with which the program ends after a failure. -/
def failureCode : Nat := 1

/-- The line that the program writes when it fails. -/
def errorLine (f : Failure) : String := "Error: " ++ f.message

end LiveCamera.CommandLine
