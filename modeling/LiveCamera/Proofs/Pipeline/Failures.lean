import LiveCamera.Pipeline.Script
import Mathlib.Data.List.Forall2
import Mathlib.Data.Option.Basic
import Mathlib.Tactic.SplitIfs

/-!
# Failures that nobody notices

To a worker, a camera, an encoder or an audio source that fails has nothing to give, and an encoder
that refuses a frame has taken it.  The outline of a script leaves such failures out, and the time
too.  A round of the outline is the outline of the round (`step_outline`), so scripts that agree but
for such failures make a worker do the same (`failures_unnoticed`).
-/

namespace LiveCamera.Pipeline

variable {α : Type}

/-- The answer, if a failure counts as nothing to give. -/
def lenient (answer : Except Failure (Option α)) : Except Failure (Option α) :=
  .ok (offered answer)

@[simp] theorem offered_lenient (answer : Except Failure (Option α)) :
    offered (lenient answer) = offered answer := rfl

/-! ## Outlines -/

/-- A call without its failure, if that goes unnoticed, and without its timestamp. -/
def Call.outline : Call → Call
  | framePopped answer => framePopped (lenient answer)
  | unitPopped answer => unitPopped (lenient answer)
  | videoPushed data _ answer => videoPushed data 0 answer
  | framePushed frame _ => framePushed frame (.ok ())
  | audioPopped answer => audioPopped (lenient answer)
  | call => call

/-- A worker whose stream began at time zero, if it has begun. -/
def Worker.outline (w : Worker) : Worker := { w with startedAt := w.startedAt.map fun _ ↦ 0 }

namespace Script

/-- A script without the failures that go unnoticed, and without a clock. -/
def outline (s : Script) : Script :=
  { s with
    frames := s.frames.map lenient
    units := s.units.map lenient
    framePushes := s.framePushes.map fun _ ↦ .ok ()
    audio := s.audio.map (·.map lenient)
    times := []
    calls := s.calls.map Call.outline }

/-- The outline of a worker and its script. -/
def outlines (x : Worker × Script) : Worker × Script := (x.1.outline, x.2.outline)

variable (w : Worker) (s : Script)

/-! ## Stations -/

theorem getD_map_lenient (next : Option (Except Failure (Option α))) :
    (next.map lenient).getD (.ok none) = lenient (next.getD (.ok none)) := by
  cases next <;> rfl

theorem isVideoOpen_outline : stations.isVideoOpen s.outline =
    ((stations.isVideoOpen s).1, (stations.isVideoOpen s).2.outline) := by
  simp only [stations, outline]
  cases s.videoOpens <;> simp [note, Call.outline]

theorem popFrame_outline : stations.popFrame s.outline =
    (lenient (stations.popFrame s).1, (stations.popFrame s).2.outline) := by
  simp [stations, outline, note, Call.outline, getD_map_lenient]

theorem popUnit_outline : stations.popUnit s.outline =
    (lenient (stations.popUnit s).1, (stations.popUnit s).2.outline) := by
  simp [stations, outline, note, Call.outline, getD_map_lenient]

theorem now_outline : stations.now s.outline = (0, (stations.now s).2.outline) := rfl

theorem pushVideo_outline (data : Bytes) (time : Nat) :
    stations.pushVideo data 0 s.outline =
      ((stations.pushVideo data time s).1, (stations.pushVideo data time s).2.outline) := by
  simp [stations, outline, note, Call.outline]

theorem releaseUnit_outline (unit : AccessUnit) :
    stations.releaseUnit unit s.outline = (stations.releaseUnit unit s).outline := by
  simp [stations, outline, note, Call.outline]

theorem pushFrame_outline (frame : Frame) :
    (stations.pushFrame frame s.outline).2 = (stations.pushFrame frame s).2.outline := by
  cases hpushes : s.framePushes <;> simp [stations, outline, note, Call.outline, hpushes]

theorem releaseFrame_outline (frame : Frame) :
    stations.releaseFrame frame s.outline = (stations.releaseFrame frame s).outline := by
  simp [stations, outline, note, Call.outline]

theorem audioTurns_outline : stations.audioTurns s.outline = stations.audioTurns s := by
  cases haudio : s.audio <;> simp [stations, outline, haudio]

theorem popAudio_outline : stations.popAudio s.outline =
    (lenient (stations.popAudio s).1, (stations.popAudio s).2.outline) := by
  cases haudio : s.audio with
  | none => simp [stations, outline, note, Call.outline, haudio, lenient, offered]
  | some answers => simp [stations, outline, note, Call.outline, haudio, getD_map_lenient]

theorem isAudioOpen_outline : stations.isAudioOpen s.outline =
    ((stations.isAudioOpen s).1, (stations.isAudioOpen s).2.outline) := by
  simp [stations, outline, note, Call.outline]

theorem pushAudio_outline (packet : AudioPacket) : stations.pushAudio packet s.outline =
    ((stations.pushAudio packet s).1, (stations.pushAudio packet s).2.outline) := by
  simp [stations, outline, note, Call.outline]

/-! ## Rounds -/

theorem deliver_outline (base : Nat) (unit : AccessUnit) :
    w.outline.deliver stations 0 unit s.outline = outlines (w.deliver stations base unit s) := by
  let time := stations.now s
  let asked := stations.isVideoOpen time.2
  have hpushed := pushVideo_outline asked.2 unit.concat (timestamp (time.1 - base))
  simp only [Worker.deliver, now_outline, isVideoOpen_outline]
  split_ifs
  · rw [show timestamp (0 - 0) = 0 from rfl, hpushed]
    cases (stations.pushVideo unit.concat (timestamp (time.1 - base)) asked.2).1 <;> rfl
  · rfl

theorem forward_outline (unit : AccessUnit) :
    w.outline.forward stations unit s.outline = outlines (w.forward stations unit s) := by
  rcases hstarted : w.startedAt with _ | base
  · have houtline : w.outline.startedAt = none := by simp [Worker.outline, hstarted]
    simp only [Worker.forward, houtline, hstarted]
    split_ifs
    · rfl
    · exact deliver_outline { w with startedAt := some (stations.now s).1 }
        (stations.publish .keyframeReady (stations.now s).2) (stations.now s).1 unit
  · have houtline : w.outline.startedAt = some 0 := by simp [Worker.outline, hstarted]
    simp only [Worker.forward, houtline, hstarted]
    exact deliver_outline w s base unit

theorem handleUnit_outline (unit : Option AccessUnit) :
    w.outline.handleUnit stations unit s.outline = outlines (w.handleUnit stations unit s) := by
  cases unit with
  | none => rfl
  | some unit =>
    let counted : Worker := { w with stats := { w.stats with encoded := w.stats.encoded + 1 } }
    let release (x : Worker × Script) : Worker × Script := (x.1, stations.releaseUnit unit x.2)
    calc
      w.outline.handleUnit stations (some unit) s.outline =
          release (counted.outline.forward stations unit s.outline) := rfl
      _ = release (outlines (counted.forward stations unit s)) :=
        congrArg release (forward_outline counted s unit)
      _ = outlines (release (counted.forward stations unit s)) :=
        congrArg (Prod.mk _) (releaseUnit_outline _ unit)

theorem handleFrame_outline (frame : Option Frame) :
    w.outline.handleFrame stations frame s.outline = outlines (w.handleFrame stations frame s) := by
  cases frame with
  | none => rfl
  | some frame =>
    simp only [Worker.handleFrame, pushFrame_outline, releaseFrame_outline]
    rfl

theorem drainAudio_outline (turns : Nat) :
    w.outline.drainAudio stations turns s.outline = outlines (w.drainAudio stations turns s) := by
  induction turns generalizing w s with
  | zero => rfl
  | succ turns ih =>
    simp only [Worker.drainAudio, popAudio_outline, offered_lenient]
    cases offered (stations.popAudio s).1 with
    | none => rfl
    | some packet =>
      simp only [isAudioOpen_outline]
      split_ifs
      · simp only [pushAudio_outline]
        cases (stations.pushAudio packet (stations.isAudioOpen (stations.popAudio s).2).2).1 with
        | ok _ => exact ih { w with stats := { w.stats with audioSent := w.stats.audioSent + 1 } } _
        | error _ => exact ih w _
      · exact ih w _

/-- A round of the outline is the outline of the round. -/
theorem step_outline : w.outline.step stations s.outline = outlines (w.step stations s) := by
  simp only [Worker.step, isVideoOpen_outline]
  split_ifs
  · simp only [popFrame_outline, popUnit_outline, offered_lenient, handleUnit_outline,
      outlines, handleFrame_outline, audioTurns_outline, drainAudio_outline]
  · rfl

theorem run_outlines (n : Nat) (x : Worker × Script) :
    Worker.run stations n (outlines x) = outlines (Worker.run stations n x) := by
  induction n generalizing x with
  | zero => rfl
  | succ n ih =>
    rw [Worker.run_succ, Worker.run_succ, ← ih]
    exact congrArg _ (step_outline x.1 x.2)

theorem playFor_outlines (rounds : Nat) (x : Worker × Script) :
    playFor rounds (outlines x) = outlines (playFor rounds x) := by
  induction rounds generalizing x with
  | zero => rfl
  | succ rounds ih =>
    have hover : (outlines x).2.isOver = x.2.isOver := rfl
    simp only [playFor, hover]
    split_ifs
    · rfl
    · rw [← ih]
      exact congrArg _ (step_outline x.1 x.2)

theorem play_outline : s.outline.play = outlines s.play :=
  playFor_outlines (s.videoOpens.length + 1) (.fresh, s)

end Script

/-! ## Scripts that fail less often -/

/-- Whether an answer is still the same, or `instead` where it was a failure. -/
def Spared (instead : α) (answer spared : Except Failure α) : Prop :=
  spared = answer ∨ spared = .ok instead ∧ ∃ cause, answer = .error cause

theorem Spared.lenient_eq {answer spared : Except Failure (Option α)}
    (h : Spared none answer spared) : lenient spared = lenient answer := by
  rcases h with rfl | ⟨rfl, _, rfl⟩ <;> rfl

theorem map_eq_of_forall₂ {β : Type} {related : α → α → Prop} {f : α → β}
    (hf : ∀ a b, related a b → f b = f a) {before after : List α}
    (h : List.Forall₂ related before after) : after.map f = before.map f := by
  induction h with
  | nil => rfl
  | cons hfirst _ ih => rw [List.map_cons, List.map_cons, hf _ _ hfirst, ih]

theorem map_eq_of_rel {β : Type} {related : α → α → Prop} {f : α → β}
    (hf : ∀ a b, related a b → f b = f a) {before after : Option α}
    (h : Option.Rel related before after) : after.map f = before.map f := by
  cases h with
  | none => rfl
  | some h => exact congrArg some (hf _ _ h)

namespace Script

/-- Whether a script differs from another one only in that some failures of the camera, the encoder
and the audio source are gone: something asked for is not there, and a frame is taken.  Its clock
may be another one. -/
structure Spared (s t : Script) : Prop where
  frames : List.Forall₂ (Pipeline.Spared none) s.frames t.frames
  units : List.Forall₂ (Pipeline.Spared none) s.units t.units
  framePushes : List.Forall₂ (Pipeline.Spared ()) s.framePushes t.framePushes
  audio : Option.Rel (List.Forall₂ (Pipeline.Spared none)) s.audio t.audio
  others : t = { s with
    frames := t.frames
    units := t.units
    framePushes := t.framePushes
    audio := t.audio
    times := t.times }

theorem Spared.outline_eq {s t : Script} (h : s.Spared t) : t.outline = s.outline := by
  have hpops {β : Type} (before after : List (Except Failure (Option β)))
      (hspared : List.Forall₂ (Pipeline.Spared none) before after) :
      after.map lenient = before.map lenient :=
    map_eq_of_forall₂ (fun _ _ ↦ Pipeline.Spared.lenient_eq) hspared
  have hpushes : t.framePushes.map (fun _ ↦ (.ok () : Except Failure Unit)) =
      s.framePushes.map fun _ ↦ .ok () :=
    map_eq_of_forall₂ (fun _ _ _ ↦ rfl) h.framePushes
  have haudio : t.audio.map (·.map lenient) = s.audio.map (·.map lenient) :=
    map_eq_of_rel hpops h.audio
  rw [outline, hpops _ _ h.frames, hpops _ _ h.units, hpushes, haudio, h.others]
  rfl

/-- Whether two workers did the same: the same calls with the same arguments in the same order,
answered alike but for failures that go unnoticed and at any time; the same announcements; and the
same counts. -/
structure Agree (x y : Worker × Script) : Prop where
  calls : y.2.calls.map Call.outline = x.2.calls.map Call.outline
  events : y.2.events = x.2.events
  stats : y.1.stats = x.1.stats

theorem agree_of_outlines_eq {x y : Worker × Script} (h : outlines y = outlines x) : Agree x y where
  calls := congrArg (·.2.calls) h
  events := congrArg (·.2.events) h
  stats := congrArg (·.1.stats) h

/-- A camera, an encoder or an audio source that fails when it is asked might as well have nothing
to give, and an encoder that fails when it is handed a frame might as well take it: the worker makes
the same calls, announces the same and counts the same, after any number of rounds and when the
script is over. -/
theorem failures_unnoticed {s t : Script} (h : s.Spared t) :
    (∀ n, Agree (Worker.run stations n (.fresh, s)) (Worker.run stations n (.fresh, t))) ∧
      Agree s.play t.play := by
  have houtlines : outlines (.fresh, t) = outlines (.fresh, s) :=
    congrArg (Prod.mk _) h.outline_eq
  constructor
  · intro n
    apply agree_of_outlines_eq
    rw [← run_outlines, houtlines, run_outlines]
  · apply agree_of_outlines_eq
    rw [← play_outline, h.outline_eq, play_outline]

/-- Every collaborator fails once, and none does. -/
theorem failures_unnoticed_everywhere :
    let faulty : Script := {
      videoOpens := [true, true, true, true]
      frames := [.error .fileFailed, .ok (some default)]
      units := [.ok (some ⟨[[1], [2]]⟩), .error .fileFailed]
      videoPushes := [.error .videoTrackClosed]
      framePushes := [.error .fileFailed]
      audio := some [.error .fileFailed, .ok (some default)]
      audioOpens := [true]
      audioPushes := []
      times := [5, 9]
      isOver := false
      calls := []
      events := [] }
    let faultless : Script := { faulty with
      frames := [.ok none, .ok (some default)]
      units := [.ok (some ⟨[[1], [2]]⟩), .ok none]
      framePushes := [.ok ()]
      audio := some [.ok none, .ok (some default)]
      times := [7] }
    faulty.Spared faultless ∧ Agree faulty.play faultless.play ∧
      faulty.play.1.stats = ⟨1, 1, 0, 1, 1⟩ := by
  intro faulty faultless
  have hspared : faulty.Spared faultless := by
    have hsame {α : Type} (instead : α) (answer : Except Failure α) :
        Pipeline.Spared instead answer answer := .inl rfl
    have hgone {α : Type} (instead : α) (cause : Failure) :
        Pipeline.Spared instead (.error cause) (.ok instead) := .inr ⟨rfl, cause, rfl⟩
    exact {
      frames := .cons (hgone _ _) (.cons (hsame _ _) .nil)
      units := .cons (hsame _ _) (.cons (hgone _ _) .nil)
      framePushes := .cons (hgone _ _) .nil
      audio := .some (.cons (hgone _ _) (.cons (hsame _ _) .nil))
      others := rfl }
  exact ⟨hspared, (failures_unnoticed hspared).2, by decide⟩

end Script

end LiveCamera.Pipeline
