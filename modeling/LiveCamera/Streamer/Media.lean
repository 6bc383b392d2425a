import LiveCamera.Replay
import LiveCamera.Streamer.Basic

/-!
# Media of a run

While a run goes on, its worker takes frames from the camera, access units from a replayed
recording, and packets from the audio source to the session. Here the camera and the audio source
have a given supply, and the worker runs until both are used up and everything encoded was sent.
-/

namespace LiveCamera

/-- What flows through a run. -/
structure MediaFlow where
  session : Session
  encoder : Replay
  /-- The frames that the camera will deliver. -/
  frames : List Frame
  /-- The packets that the audio source will deliver; nothing if there is none. -/
  packets : Option (List AudioPacket)
  /-- The time in nanoseconds. -/
  time : Nat
  /-- What the video sink of the connection answers to a packet, given how many it holds. -/
  sink : Nat → Nat → SinkAnswer

namespace MediaFlow

def stations : Pipeline.Stations MediaFlow where
  isVideoOpen s := (s.session.isVideoOpen, s)
  popFrame s := (.ok s.frames.head?, { s with frames := s.frames.tail })
  popUnit s :=
    let popped := s.encoder.pop
    (.ok popped.1, { s with encoder := popped.2 })
  now s := (s.time, s)
  publish event s := { s with session := s.session.publish event }
  pushVideo data timestamp s :=
    let held := (s.session.connection?.map (·.packets.length)).getD 0
    let pushed := s.session.pushVideo data timestamp (s.sink held)
    (pushed.1, { s with session := pushed.2 })
  releaseUnit _ s := s
  pushFrame _ s := (.ok (), { s with encoder := s.encoder.push })
  releaseFrame _ s := s
  audioTurns s := (s.packets.map (·.length + 1)).getD 0
  popAudio s := (.ok (s.packets.bind (·.head?)), { s with packets := s.packets.map (·.tail) })
  isAudioOpen s := (s.session.isAudioOpen, s)
  pushAudio packet s :=
    let pushed := s.session.pushAudio packet (.ok ())
    (pushed.1, { s with session := pushed.2 })

/-- The number of rounds after which nothing is left: one for each frame, one for each access unit
that waits, and one to find out. -/
def rounds (s : MediaFlow) : Nat := 2 * s.frames.length + s.encoder.ready.length + 1

end MediaFlow

namespace Streamer

/-- Runs the worker on a supply of frames and audio packets until nothing is left. Without a viewer
that accepts video nothing flows. -/
def stream (s : Streamer Replay) (frames : List Frame) (packets : List AudioPacket)
    (sink : Nat → Nat → SinkAnswer) : Streamer Replay :=
  (s.withRun () fun run ↦
    let flow : MediaFlow :=
      ⟨run.session, run.encoder, frames, if run.session.config.audio then some packets else none, 0,
        sink⟩
    let ended := Pipeline.Worker.run MediaFlow.stations flow.rounds (run.worker, flow)
    ((), { run with
      session := ended.2.session
      encoder := ended.2.encoder
      worker := ended.1 })).2

end Streamer

end LiveCamera
