import LiveCamera.Pipeline.Worker

/-!
# Scripted collaborators

Collaborators that play a script: for each kind of call a list of answers, one for each coming call.
A list that has run out stands for "nothing there" and "done"; when the viewer's answers have run
out, the script is over. Every call is written down.
-/

namespace LiveCamera.Pipeline

/-- A call of a collaborator with what it answered. -/
inductive Call
  | videoOpen (answer : Bool)
  | framePopped (answer : Except Failure (Option Frame))
  | unitPopped (answer : Except Failure (Option AccessUnit))
  | videoPushed (data : Bytes) (timestamp : Nat) (answer : Except Failure Unit)
  | unitReleased (unit : AccessUnit)
  | framePushed (frame : Frame) (answer : Except Failure Unit)
  | frameReleased (frame : Frame)
  | audioPopped (answer : Except Failure (Option AudioPacket))
  | audioOpen (answer : Bool)
  | audioPushed (packet : AudioPacket) (answer : Except Failure Unit)

/-- The answers that are still to come, and the calls so far. -/
structure Script where
  videoOpens : List Bool
  frames : List (Except Failure (Option Frame))
  units : List (Except Failure (Option AccessUnit))
  videoPushes : List (Except Failure Unit)
  framePushes : List (Except Failure Unit)
  /-- The answers of the audio source; nothing if there is none. -/
  audio : Option (List (Except Failure (Option AudioPacket)))
  audioOpens : List Bool
  audioPushes : List (Except Failure Unit)
  /-- The time that the clock shows at each look, in nanoseconds. -/
  times : List Nat
  isOver : Bool
  calls : List Call
  events : List StreamEvent

namespace Script

def note (s : Script) (call : Call) : Script := { s with calls := s.calls ++ [call] }

def stations : Stations Script where
  isVideoOpen s :=
    match s.videoOpens with
    | [] => (false, ({ s with isOver := true } : Script).note (.videoOpen false))
    | answer :: rest => (answer, ({ s with videoOpens := rest } : Script).note (.videoOpen answer))
  popFrame s :=
    let answer := s.frames.head?.getD (.ok none)
    (answer, ({ s with frames := s.frames.tail } : Script).note (.framePopped answer))
  popUnit s :=
    let answer := s.units.head?.getD (.ok none)
    (answer, ({ s with units := s.units.tail } : Script).note (.unitPopped answer))
  now s := (s.times.head?.getD 0, { s with times := s.times.tail })
  publish event s := { s with events := s.events ++ [event] }
  pushVideo data timestamp s :=
    let answer := s.videoPushes.head?.getD (.ok ())
    (answer, ({ s with videoPushes := s.videoPushes.tail } : Script).note
      (.videoPushed data timestamp answer))
  releaseUnit unit s := s.note (.unitReleased unit)
  pushFrame frame s :=
    let answer := s.framePushes.head?.getD (.ok ())
    (answer, ({ s with framePushes := s.framePushes.tail } : Script).note
      (.framePushed frame answer))
  releaseFrame frame s := s.note (.frameReleased frame)
  audioTurns s := (s.audio.map (·.length + 1)).getD 0
  popAudio s :=
    let answer := ((s.audio.getD []).head?).getD (.ok none)
    (answer, ({ s with audio := s.audio.map (·.tail) } : Script).note (.audioPopped answer))
  isAudioOpen s :=
    let answer := s.audioOpens.head?.getD false
    (answer, ({ s with audioOpens := s.audioOpens.tail } : Script).note (.audioOpen answer))
  pushAudio packet s :=
    let answer := s.audioPushes.head?.getD (.ok ())
    (answer, ({ s with audioPushes := s.audioPushes.tail } : Script).note
      (.audioPushed packet answer))

/-- Plays at most `rounds` rounds, and no more once the script is over. -/
def playFor : Nat → Worker × Script → Worker × Script
  | 0, state => state
  | rounds + 1, state =>
    if state.2.isOver then state else playFor rounds (state.1.step stations state.2)

/-- Plays a script to its end. Every round asks the viewer at least once. -/
def play (s : Script) : Worker × Script := playFor (s.videoOpens.length + 1) (.fresh, s)

end Script

end LiveCamera.Pipeline
