import LiveCamera.Rehearsal.Script
import LiveCamera.Streamer.Media

/-!
# Streamers in rehearsal

A rehearsal of whole runs: the streamer starts and stops on a scripted transport, its encoder
replays a recording, and the network has one address that cannot be listened on.
-/

namespace LiveCamera

structure StreamingRehearsal where
  script : TransportScript
  streamer : Streamer Replay
  /-- The recording that encoders replay, or why there is no encoder. -/
  recording : Except Failure Bytes
  /-- What the audio source answers to a reset. -/
  audioReset : Except Failure Unit
  /-- The packets that the video sink of each connection takes. -/
  packetLimits : List (Option Nat)

namespace StreamingRehearsal

/-- An address that belongs to no device. -/
def foreignAddress : String := "192.0.2.1"

def answers (r : StreamingRehearsal) : StartAnswers Replay where
  encoder request := r.recording.bind (Replay.ofStream request.videoType.codec)
  audioReset := r.audioReset
  transport := r.script.answers
  canListen address _ := address != foreignAddress
  canReach _ _ := false
  closing := r.script.verdict .close

/-- Replaces the streamer, whose new connections follow the script. -/
def withStreamer (r : StreamingRehearsal) (streamer : Streamer Replay) : StreamingRehearsal :=
  { r with
    streamer
    packetLimits := r.packetLimits ++
      List.replicate (streamer.connections.length - r.packetLimits.length) r.script.packetLimit }

def start (r : StreamingRehearsal) : Except Failure Unit × StreamingRehearsal :=
  let started := r.streamer.start r.answers
  (started.1, r.withStreamer started.2)

def stop (r : StreamingRehearsal) : StreamingRehearsal :=
  r.withStreamer (r.streamer.stop (r.script.verdict .close))

/-- Replaces the connection of the run, if there is one. -/
def reset (r : StreamingRehearsal) : Option (Except Failure Unit) × StreamingRehearsal :=
  let changed := r.streamer.withSession none fun session ↦
    let done := session.reset (r.script.verdict .close) r.script.answers
    (some done.1, done.2)
  (changed.1, r.withStreamer changed.2)

/-- A viewer answers: the state of the session afterwards, if there is a run. -/
def answer (r : StreamingRehearsal) (sdp : String) : Option SessionState × StreamingRehearsal :=
  let changed := r.streamer.withSession none fun session ↦
    match session.answerTarget? sdp, TransportScript.answerVerdict sdp with
    | some place, .ok _ =>
      let after := (session.applyAnswer sdp (.ok ())).report place (.stateChanged .connected)
      (some after.state, after)
    | _, _ => (some session.state, session)
  (changed.1, r.withStreamer changed.2)

/-- Lets the camera deliver frames, with audio packets waiting. -/
def stream (r : StreamingRehearsal) (frames : Nat) (packets : List AudioPacket) :
    StreamingRehearsal :=
  let supply := (List.range frames).map fun i ↦ (⟨[], ⟨0, 0⟩, .nv21, i⟩ : Frame)
  let limit := (r.packetLimits.getLast?).join
  r.withStreamer (r.streamer.stream supply packets (TransportScript.sinkAnswer limit))

end StreamingRehearsal

end LiveCamera
