import LiveCamera.Proofs.Streamer.Course
import Mathlib.Data.List.Count

/-!
# What a streamer listens for

The page is served before signaling is joined, so a start that cannot join signaling has a listener
to close again, and a stop closes signaling before the page.  `Course.deeds` tells for each move
what is opened and closed by it; over a whole start and a whole stop this comes to what the run
holds (`deedsAll_startMoves`, `deedsAll_stopMoves`).
-/

namespace LiveCamera

namespace Streamer

variable {ε : Type}

/-- What is done to a listener. -/
inductive Deed
  | opens (listener : Listener)
  | closes (listener : Listener)
  deriving DecidableEq, Repr

theorem servePage_cases (s : Streamer ε) (answers : StartAnswers ε) :
    (∃ cause, s.servePage answers = .error cause) ∨ s.servePage answers = .ok [] ∨
      s.servePage answers = .ok [.page] := by
  unfold servePage
  dsimp only
  split_ifs
  · exact .inr (.inl rfl)
  · exact .inr (.inr rfl)
  · exact .inl ⟨_, rfl⟩

namespace Course

/-- The listeners that a start opens or closes by its next step. -/
def startDeeds (x : Course ε) (c : Starting ε) : List Deed :=
  match c.stage with
  | .serving _ =>
    match x.streamer.servePage c.answers with
    | .ok page => page.map .opens
    | .error _ => []
  | .joining _ page =>
    match x.streamer.joinSignaling c.answers (!page.isEmpty) with
    | .ok joined => joined.2.map .opens
    | .error _ => []
  | .unserving .. => [.closes .page]
  | .opening | .withdrawing .. => []

/-- The listeners that a stop closes by its next step. -/
def stopDeeds (c : Stopping ε) : List Deed :=
  match c.next with
  | .signaling => (c.run.listeners.filter (· = .signaling)).map .closes
  | .page => (c.run.listeners.filter (· = .page)).map .closes
  | .worker | .session => []

/-- The listeners that a move opens or closes. -/
def deeds (x : Course ε) : Move ε → List Deed
  | .advance => (x.starting.map x.startDeeds).getD []
  | .proceed which => (x.stopping[which]?.map stopDeeds).getD []
  | .bindCamera _ | .bindAudio | .start _ | .stop _ => []

/-- The listeners that several moves open or close, in order. -/
def deedsAll (x : Course ε) : List (Move ε) → List Deed
  | [] => []
  | move :: moves => x.deeds move ++ (x.take move).deedsAll moves

variable {x : Course ε}

theorem deedsAll_replicate_advance (h : x.starting = none) (count : Nat) :
    x.deedsAll (List.replicate count .advance) = [] := by
  induction count with
  | zero => rfl
  | succ count ih =>
    rw [List.replicate_succ, deedsAll, take_advance_of_none h, ih, deeds, h]
    rfl

theorem deedsAll_replicate_succ {c : Starting ε} (h : x.starting = some c) (count : Nat) :
    x.deedsAll (List.replicate (count + 1) .advance) =
      x.startDeeds c ++ (x.advance c).deedsAll (List.replicate count .advance) := by
  rw [List.replicate_succ, deedsAll, take_advance h, deeds, h]
  rfl

/-- A start that closes its session again is over. -/
theorem deedsAll_withdrawing {c : Starting ε} {session : Session} {cause : Failure}
    (h : x.starting = some { c with stage := .withdrawing session cause }) (count : Nat) :
    x.deedsAll (List.replicate (count + 1) .advance) = [] := by
  rw [deedsAll_replicate_succ h]
  exact deedsAll_replicate_advance rfl count

/-- A start that cannot join signaling closes the page again. -/
theorem deedsAll_joining {c : Starting ε} {session : Session} {page : List Listener}
    (hpage : page = [] ∨ page = [.page])
    (h : x.starting = some { c with stage := .joining session page }) :
    x.deedsAll (List.replicate 3 .advance) =
      match x.streamer.joinSignaling c.answers (!page.isEmpty) with
      | .ok joined => joined.2.map .opens
      | .error _ => page.map .closes := by
  rw [deedsAll_replicate_succ h]
  simp only [startDeeds, advance, joinSignaling]
  cases x.streamer.joinSignaling c.answers (!page.isEmpty) with
  | error cause =>
    dsimp only
    rcases hpage with rfl | rfl
    · rw [List.nil_append, deedsAll_withdrawing (c := c) rfl 1]
      rfl
    · rw [List.nil_append, deedsAll_replicate_succ rfl]
      exact congrArg ([Deed.closes .page] ++ ·) (deedsAll_withdrawing (c := c) rfl 0)
  | ok joined =>
    dsimp only
    rw [deedsAll_replicate_advance rfl, List.append_nil]

/-- Behind its preparation a start either leaves open what the run listens for, or closes what it
has opened. -/
theorem deedsAll_launch (x : Course ε) (answers : StartAnswers ε) (encoder : ε)
    (config : SessionConfig) :
    let deeds := ({ x with starting := some ⟨answers, encoder, config, .opening⟩ } :
      Course ε).deedsAll (List.replicate 5 .advance)
    (∃ run, (x.streamer.launch answers encoder config).1 = .ok () ∧
        (x.streamer.launch answers encoder config).2.running = some run ∧
        deeds = run.listeners.map .opens) ∨
      (∃ cause, (x.streamer.launch answers encoder config).1 = .error cause) ∧
        (deeds = [] ∨ deeds = [.opens .page, .closes .page]) := by
  intro deeds
  unfold deeds
  rw [deedsAll_replicate_succ rfl]
  simp only [startDeeds, List.nil_append, advance, openSession, launch]
  rcases (Session.new config []).establish answers.transport with ⟨cause | _, session⟩
  · dsimp only
    exact .inr ⟨⟨cause, rfl⟩, .inl (deedsAll_replicate_advance rfl 4)⟩
  have hserve : (x.streamer.publish session.journal).servePage answers =
      x.streamer.servePage answers := rfl
  have hjoin (served : Bool) : (x.streamer.publish session.journal).joinSignaling answers served =
      x.streamer.joinSignaling answers served := rfl
  let starting : Starting ε := ⟨answers, encoder, config, .opening⟩
  dsimp only
  rw [deedsAll_replicate_succ rfl]
  simp only [startDeeds, advance, servePage, hserve, openDoors, bind, Except.bind, pure,
    Except.pure]
  cases hpage : x.streamer.servePage answers with
  | error cause =>
    dsimp only
    rw [List.nil_append]
    exact .inr ⟨⟨cause, rfl⟩, .inl (deedsAll_withdrawing (c := starting) rfl 2)⟩
  | ok page =>
    have hpage : page = [] ∨ page = [.page] := by
      rcases x.streamer.servePage_cases answers with ⟨cause, hcases⟩ | hcases | hcases <;>
        rw [hcases] at hpage <;> cases hpage
      · exact .inl rfl
      · exact .inr rfl
    dsimp only
    rw [deedsAll_joining (c := starting) hpage rfl]
    simp only [starting, hjoin]
    cases x.streamer.joinSignaling answers (!page.isEmpty) with
    | error cause =>
      refine .inr ⟨⟨cause, rfl⟩, ?_⟩
      rcases hpage with rfl | rfl
      · exact .inl rfl
      · exact .inr rfl
    | ok joined =>
      refine .inl ⟨_, rfl, rfl, ?_⟩
      exact List.map_append.symm

/-- A start leaves open what the run listens for, or closes what it has opened. -/
theorem deedsAll_startMoves (h : x.starting = none) (answers : StartAnswers ε) :
    let deeds := x.deedsAll (startMoves answers)
    (∃ run, (x.streamer.start answers).1 = .ok () ∧
        (x.streamer.start answers).2.running = some run ∧ deeds = run.listeners.map .opens) ∨
      (∃ cause, (x.streamer.start answers).1 = .error cause) ∧
        (deeds = [] ∨ deeds = [.opens .page, .closes .page]) := by
  intro deeds
  unfold deeds
  rw [startMoves, deedsAll, take_start h, start, start_eq_prepare]
  rcases x.streamer.prepare answers with ⟨cause | ⟨encoder, config⟩, streamer⟩
  · exact .inr ⟨⟨cause, rfl⟩, .inl (deedsAll_replicate_advance rfl 5)⟩
  · exact deedsAll_launch { x with streamer } answers encoder config

/-- A stop closes what the run listens for. -/
theorem deedsAll_stopMoves (h : x.starting = none) (hstopping : x.stopping = []) {run : Run ε}
    (hrunning : x.streamer.running = some run) (closing : Except Failure Unit) :
    x.deedsAll (stopMoves closing) =
      (run.listeners.filter (· = .signaling) ++ run.listeners.filter (· = .page)).map .closes := by
  rw [stopMoves, deedsAll, take_stop h, stop_of_some hrunning, hstopping]
  simp [List.replicate, deedsAll, deeds, stopDeeds, take, proceed, Remainder.next?]

theorem count_filter_signaling_add_page (listeners : List Listener) (listener : Listener) :
    (listeners.filter (· = .signaling)).count listener +
      (listeners.filter (· = .page)).count listener = listeners.count listener := by
  induction listeners with
  | nil => rfl
  | cons first rest ih =>
    cases first <;> cases listener <;> simp at ih ⊢ <;> omega

/-- Over a whole stop every listener of the run is closed once. -/
theorem count_closes_stopMoves (h : x.starting = none) (hstopping : x.stopping = []) {run : Run ε}
    (hrunning : x.streamer.running = some run) (closing : Except Failure Unit)
    (listener : Listener) :
    (x.deedsAll (stopMoves closing)).count (.closes listener) = run.listeners.count listener := by
  have hinjective : Function.Injective Deed.closes := fun _ _ hsame ↦ Deed.closes.inj hsame
  rw [deedsAll_stopMoves h hstopping hrunning, List.count_map_of_injective _ _ hinjective,
    List.count_append, count_filter_signaling_add_page]

end Course

end Streamer

end LiveCamera
