import LiveCamera.AccessUnit
import LiveCamera.Event
import LiveCamera.Picture.Frame
import LiveCamera.Track.Audio

/-!
# Stations of a stream

What a streaming worker works with: a camera, an encoder, maybe an audio source, and the place that
media goes to. Each call is a function on the state of all of them together, so that every order of
calls has one meaning.
-/

namespace LiveCamera.Pipeline

/-- The collaborators of a worker, whose state is a `σ`. -/
structure Stations (σ : Type) where
  /-- Asks whether the viewer accepts video. -/
  isVideoOpen : σ → Bool × σ
  /-- Asks the camera for its next frame. -/
  popFrame : σ → Except Failure (Option Frame) × σ
  /-- Asks the encoder for its next access unit. -/
  popUnit : σ → Except Failure (Option AccessUnit) × σ
  /-- The time in nanoseconds. -/
  now : σ → Nat × σ
  publish : StreamEvent → σ → σ
  /-- Sends an access unit with its timestamp to the viewer. -/
  pushVideo : Bytes → Nat → σ → Except Failure Unit × σ
  /-- Returns an access unit to the encoder. -/
  releaseUnit : AccessUnit → σ → σ
  /-- Hands a frame to the encoder. -/
  pushFrame : Frame → σ → Except Failure Unit × σ
  /-- Returns a frame to the camera. -/
  releaseFrame : Frame → σ → σ
  /-- How often the audio source can be asked before it has nothing left; zero if there is none. -/
  audioTurns : σ → Nat
  /-- Asks the audio source for its next packet. -/
  popAudio : σ → Except Failure (Option AudioPacket) × σ
  /-- Asks whether the viewer accepts audio. -/
  isAudioOpen : σ → Bool × σ
  /-- Sends an audio packet to the viewer. -/
  pushAudio : AudioPacket → σ → Except Failure Unit × σ

end LiveCamera.Pipeline
