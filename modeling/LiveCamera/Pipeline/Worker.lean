import LiveCamera.Pipeline.Stations

/-!
# The streaming worker

While a viewer accepts video the worker takes frames from the camera to the encoder and access units
from the encoder to the viewer. Nothing is sent before the first access unit with more than one
unit, where decoding can start. Audio packets that wait are sent in every round. A collaborator that
fails counts as one that has nothing to give.
-/

namespace LiveCamera.Pipeline

/-- What a worker counts. -/
structure Stats where
  /-- Frames taken from the camera. -/
  captured : Nat
  /-- Access units taken from the encoder. -/
  encoded : Nat
  /-- Access units that the viewer accepted. -/
  sent : Nat
  /-- Access units that the viewer refused. -/
  refused : Nat
  /-- Audio packets that the viewer accepted. -/
  audioSent : Nat
  deriving DecidableEq, Repr, Inhabited

namespace Stats

def zero : Stats := ⟨0, 0, 0, 0, 0⟩

end Stats

/-- What a worker remembers. -/
structure Worker where
  /-- The time at which the stream started, once it has; timestamps count from there. -/
  startedAt : Option Nat
  stats : Stats
  deriving DecidableEq, Repr, Inhabited

/-- Ticks per millisecond of video timestamps. -/
def ticksPerMillisecond : Nat := 90

/-- The timestamp of an access unit that is sent `elapsed` nanoseconds after the start. -/
def timestamp (elapsed : Nat) : Nat := elapsed / 1000000 * ticksPerMillisecond

/-- What an answer offers; a failure offers nothing. -/
def offered {α : Type} : Except Failure (Option α) → Option α
  | .ok value => value
  | .error _ => none

namespace Worker

variable {σ : Type}

def fresh : Worker := ⟨none, .zero⟩

/-- Sends an access unit of a stream that started at `base`, unless the viewer has just left. -/
def deliver (p : Stations σ) (w : Worker) (base : Nat) (unit : AccessUnit) (s : σ) : Worker × σ :=
  let time := p.now s
  let isOpen := p.isVideoOpen time.2
  if isOpen.1 then
    let pushed := p.pushVideo unit.concat (timestamp (time.1 - base)) isOpen.2
    match pushed.1 with
    | .ok _ => ({ w with stats := { w.stats with sent := w.stats.sent + 1 } }, pushed.2)
    | .error _ => ({ w with stats := { w.stats with refused := w.stats.refused + 1 } }, pushed.2)
  else (w, isOpen.2)

/-- Passes an access unit on. The first one where decoding can start begins the stream; those before
it are left out. -/
def forward (p : Stations σ) (w : Worker) (unit : AccessUnit) (s : σ) : Worker × σ :=
  match w.startedAt with
  | some base => deliver p w base unit s
  | none =>
    if unit.count ≤ 1 then (w, s)
    else
      let time := p.now s
      deliver p { w with startedAt := some time.1 } time.1 unit (p.publish .keyframeReady time.2)

/-- Deals with what the encoder had to give. -/
def handleUnit (p : Stations σ) (w : Worker) (unit : Option AccessUnit) (s : σ) : Worker × σ :=
  match unit with
  | none => (w, s)
  | some unit =>
    let counted := { w with stats := { w.stats with encoded := w.stats.encoded + 1 } }
    let forwarded := counted.forward p unit s
    (forwarded.1, p.releaseUnit unit forwarded.2)

/-- Deals with what the camera had to give. -/
def handleFrame (p : Stations σ) (w : Worker) (frame : Option Frame) (s : σ) : Worker × σ :=
  match frame with
  | none => (w, s)
  | some frame =>
    ({ w with stats := { w.stats with captured := w.stats.captured + 1 } },
      p.releaseFrame frame (p.pushFrame frame s).2)

/-- Sends the audio packets that wait, asking at most `turns` times. While the viewer accepts no
audio they are lost. -/
def drainAudio (p : Stations σ) (w : Worker) : Nat → σ → Worker × σ
  | 0, s => (w, s)
  | turns + 1, s =>
    let popped := p.popAudio s
    match offered popped.1 with
    | none => (w, popped.2)
    | some packet =>
      let isOpen := p.isAudioOpen popped.2
      if isOpen.1 then
        let pushed := p.pushAudio packet isOpen.2
        match pushed.1 with
        | .ok _ =>
          drainAudio p { w with stats := { w.stats with audioSent := w.stats.audioSent + 1 } } turns
            pushed.2
        | .error _ => drainAudio p w turns pushed.2
      else drainAudio p w turns isOpen.2

/-- One round of the worker. Without a viewer that accepts video it does nothing. -/
def step (p : Stations σ) (w : Worker) (s : σ) : Worker × σ :=
  let isOpen := p.isVideoOpen s
  if isOpen.1 then
    let frame := p.popFrame isOpen.2
    let unit := p.popUnit frame.2
    let afterUnit := w.handleUnit p (offered unit.1) unit.2
    let afterFrame := afterUnit.1.handleFrame p (offered frame.1) afterUnit.2
    afterFrame.1.drainAudio p (p.audioTurns afterFrame.2) afterFrame.2
  else (w, isOpen.2)

def run (p : Stations σ) : Nat → Worker × σ → Worker × σ
  | 0, state => state
  | n + 1, state => run p n (state.1.step p state.2)

@[simp] theorem run_zero (p : Stations σ) (state : Worker × σ) : run p 0 state = state := rfl

theorem run_succ (p : Stations σ) (n : Nat) (state : Worker × σ) :
    run p (n + 1) state = run p n (state.1.step p state.2) := rfl

theorem run_add (p : Stations σ) (m n : Nat) (state : Worker × σ) :
    run p (m + n) state = run p n (run p m state) := by
  induction m generalizing state with
  | zero => simp
  | succ m ih => rw [Nat.succ_add, run_succ, run_succ, ih]

end Worker

end LiveCamera.Pipeline
