import LiveCamera.Proofs.Session.Ledger
import LiveCamera.Proofs.Streamer.Changeover

/-!
# What a start can come to

A start can fail at any of its collaborators, and each failure has an undo path of its own.
`Outcome` says once what can come of it, and `start_outcome` that nothing else does: no later proof
opens a start again.
-/

namespace LiveCamera

/-! ## One session -/

namespace Session

open StreamEvent

/-- A connection that is not installed was closed, and the one that is installed was not. -/
theorem closes_build (s : Session) (answers : TransportAnswers) :
    (∃ cause rejected, s.build answers =
        (.error cause, { s with
          generation := s.generation + 1
          connections := s.connections ++ rejected }) ∧
      cause.kind = .runtime ∧ ∀ c ∈ rejected, c.isClosed = true) ∨
    (∃ c, s.build answers =
        (.ok (), ({ s with
          generation := s.generation + 1
          connections := s.connections ++ [c]
          liveGeneration := s.generation + 1
          current := some s.connections.length } : Session).setState .negotiating) ∧
      c.isClosed = false) := by
  have hcloses := (Connection.bare (s.generation + 1)).closes_setUp s.config answers
  simp only [build]
  cases answers.connect with
  | error cause => exact .inl ⟨.connectionFailed cause, [], by simp, rfl, by simp⟩
  | ok _ =>
    cases hsetUp : (Connection.bare (s.generation + 1)).setUp s.config answers with
    | mk result c =>
      rw [hsetUp] at hcloses
      change c.closes = [] at hcloses
      cases result with
      | error cause =>
        exact .inl ⟨.setUpFailed cause, [c.closed answers.close], rfl, rfl,
          by simp [Connection.isClosed, Connection.closed]⟩
      | ok _ => exact .inr ⟨c, rfl, by simp [Connection.isClosed, hcloses]⟩

/-- Opening a new session either fails and leaves no open connection, or makes one connection and
installs it. -/
theorem establish_new_cases (config : SessionConfig) (answers : TransportAnswers) :
    (∃ cause session, (new config []).establish answers = (.error cause, session) ∧
        cause.kind = .runtime ∧ (∀ c ∈ session.connections, c.isClosed = true) ∧
        marks session.journal = []) ∨
      ∃ c session, (new config []).establish answers = (.ok (), session) ∧
        session.connections = [c] ∧ c.isClosed = false ∧ session.current = some 0 ∧
        marks session.journal = [] := by
  have hmarks : marks ((new config []).establish answers).2.journal = [] :=
    marks_establish (new config []) answers
  rw [establish_of_none rfl] at hmarks ⊢
  rcases closes_build { new config [] with shutdown := false } answers with
    ⟨cause, rejected, hbuild, hcause, hclosed⟩ | ⟨c, hbuild, hopen⟩ <;> rw [hbuild] at hmarks ⊢
  · exact .inl ⟨cause, _, rfl, hcause, hclosed, hmarks⟩
  · refine .inr ⟨c, _, rfl, ?_, hopen, ?_, hmarks⟩ <;> rw [setState_eq] <;> rfl

/-- A session that is given up leaves no open connection. -/
theorem isClosed_of_mem_close {s : Session} {c : Connection} (hconnections : s.connections = [c])
    (hcurrent : s.current = some 0) (closing : Except Failure Unit) :
    ∀ d ∈ (s.close closing).connections, d.isClosed = true := by
  intro d hd
  rw [close, vacate_of_some hcurrent, setState_eq] at hd
  simp only [modify, hconnections, List.modify_zero_cons, List.mem_singleton] at hd
  rw [hd]
  simp [Connection.isClosed, Connection.retired, Connection.closed]

theorem marks_journal_close (s : Session) (closing : Except Failure Unit) :
    marks (s.close closing).journal = marks s.journal := by
  have hclose := s.marks_close closing
  rw [marks] at hclose ⊢
  rw [journal_close, List.filterMap_append, hclose, List.append_nil]
  rfl

/-- A transport on which everything works opens a session. -/
theorem establish_new_of_works (config : SessionConfig) {answers : TransportAnswers}
    (hconnect : answers.connect = .ok ()) (hvideo : answers.addVideo = .ok ())
    (haudio : answers.addAudio = .ok ()) {description : Option String}
    (hoffer : answers.createOffer = .ok description) :
    ((new config []).establish answers).1 = .ok () := by
  rw [establish_of_none rfl]
  unfold build Connection.setUp
  simp only [hconnect, hvideo, haudio, hoffer, ite_self]

end Session

namespace Streamer

variable {ε : Type}

/-! ## What a start can come to -/

/-- What a start can come to, with what it leaves of the streamer: nothing can change but what the
collaborators were asked, the connections that were made, the run and the events. -/
inductive Outcome (s : Streamer ε) (answers : StartAnswers ε) :
    Except Failure Unit × Streamer ε → Prop
  | running (run : Run ε) (hrunning : s.running = some run) :
    Outcome s answers (.error .alreadyRunning, s)
  | noCamera (cause : Failure) (hrunning : s.running = none)
    (hcamera : s.usableCamera = .error cause) : Outcome s answers (.error cause, s)
  /-- The encoder, the audio source or the settings are in the way. -/
  | unprepared (camera : Camera) (cause : Failure) (requests : List EncoderRequest)
    (audioResets : Nat) (hrunning : s.running = none) (hcamera : s.usableCamera = .ok camera)
    (hprepare : (s.prepare answers).1 = .error cause) :
    Outcome s answers (.error cause, { s with requests, audioResets })
  /-- The session cannot be opened, or the doors cannot, and the session is closed again. -/
  | withdrawn (camera : Camera) (cause : Failure) (requests : List EncoderRequest)
    (audioResets : Nat) (session : Session) (hrunning : s.running = none)
    (hcamera : s.usableCamera = .ok camera) (hcause : cause.kind = .runtime)
    (hclosed : ∀ c ∈ session.connections, c.isClosed = true)
    (hmarks : StreamEvent.marks session.journal = []) :
    Outcome s answers
      (.error cause, ({ s with requests, audioResets } : Streamer ε).abandon session)
  | started (c : Connection) (run : Run ε) (requests : List EncoderRequest) (audioResets : Nat)
    (events : List StreamEvent) (hrunning : s.running = none)
    (hconnections : run.session.connections = [c]) (hopen : c.isClosed = false)
    (hcurrent : run.session.current = some 0) (hmarks : StreamEvent.marks events = [true]) :
    Outcome s answers
      (.ok (), ({ s with requests, audioResets, running := some run } : Streamer ε).publish events)

theorem kind_of_servePage {s : Streamer ε} {answers : StartAnswers ε} {cause : Failure}
    (h : s.servePage answers = .error cause) : cause.kind = .runtime := by
  unfold servePage at h
  dsimp only at h
  split_ifs at h
  cases h
  rfl

theorem kind_of_joinSignaling {s : Streamer ε} {answers : StartAnswers ε} {pageServed : Bool}
    {cause : Failure} (h : s.joinSignaling answers pageServed = .error cause) :
    cause.kind = .runtime := by
  unfold joinSignaling at h
  dsimp only at h
  split_ifs at h <;> cases h <;> rfl

theorem kind_of_openDoors {s : Streamer ε} {answers : StartAnswers ε} {cause : Failure}
    (h : s.openDoors answers = .error cause) : cause.kind = .runtime := by
  simp only [openDoors, bind, Except.bind, pure, Except.pure] at h
  cases hpage : s.servePage answers with
  | error refused =>
    rw [hpage] at h
    cases h
    exact kind_of_servePage hpage
  | ok page =>
    rw [hpage] at h
    dsimp only at h
    cases hjoin : s.joinSignaling answers (!page.isEmpty) with
    | error refused =>
      rw [hjoin] at h
      cases h
      exact kind_of_joinSignaling hjoin
    | ok joined =>
      rw [hjoin] at h
      cases h

/-- The last part of a start succeeds, or leaves no open connection. -/
theorem launch_cases (s : Streamer ε) (answers : StartAnswers ε) (encoder : ε)
    (config : SessionConfig) :
    (∃ cause session, s.launch answers encoder config = (.error cause, s.abandon session) ∧
        cause.kind = .runtime ∧ (∀ c ∈ session.connections, c.isClosed = true) ∧
        StreamEvent.marks session.journal = []) ∨
      ∃ c run events, s.launch answers encoder config =
          (.ok (), ({ s with running := some run } : Streamer ε).publish events) ∧
        run.session.connections = [c] ∧ c.isClosed = false ∧ run.session.current = some 0 ∧
        StreamEvent.marks events = [true] := by
  unfold launch
  rcases Session.establish_new_cases config answers.transport with
    ⟨cause, session, hestablish, hcause, hclosed, hmarks⟩ |
    ⟨c, session, hestablish, hconnections, hopen, hcurrent, hmarks⟩ <;> rw [hestablish]
  · exact .inl ⟨cause, session, rfl, hcause, hclosed, hmarks⟩
  · dsimp only
    cases hdoors : s.openDoors answers with
    | error cause =>
      refine .inl ⟨cause, _, rfl, kind_of_openDoors hdoors, ?_, ?_⟩
      · exact Session.isClosed_of_mem_close hconnections hcurrent answers.closing
      · rw [Session.marks_journal_close, hmarks]
    | ok doors =>
      refine .inr ⟨c, _, _, rfl, hconnections, hopen, hcurrent, ?_⟩
      rw [StreamEvent.marks, List.filterMap_append, ← StreamEvent.marks, hmarks]
      rfl

theorem prepare_of_running {s : Streamer ε} {run : Run ε} (h : s.running = some run)
    (answers : StartAnswers ε) : s.prepare answers = (.error .alreadyRunning, s) := by
  simp only [prepare, h]

theorem prepare_of_unusable {s : Streamer ε} {cause : Failure} (hrunning : s.running = none)
    (hcamera : s.usableCamera = .error cause) (answers : StartAnswers ε) :
    s.prepare answers = (.error cause, s) := by
  simp only [prepare, hrunning, hcamera]

/-- What the preparation of a start answers goes by the encoder, then by the audio source, then by
the settings. -/
theorem prepare_fst {s : Streamer ε} {camera : Camera} (hrunning : s.running = none)
    (hcamera : s.usableCamera = .ok camera) (answers : StartAnswers ε) :
    (s.prepare answers).1 =
      match answers.encoder (s.request camera) with
      | .error cause => .error (.encoderFailed cause)
      | .ok encoder =>
        match if s.hasAudio then answers.audioReset else .ok () with
        | .error cause => .error cause
        | .ok _ =>
          match SessionConfig.ofSettings s.settings.stream s.settings.negotiation s.hasAudio with
          | .error cause => .error cause
          | .ok config => .ok (encoder, config) := by
  have hrequest : ({ s with requests := s.requests ++ [s.request camera] } : Streamer ε).request
      camera = s.request camera := rfl
  unfold prepare
  split
  next run hsome => cases hrunning.symm.trans hsome
  next =>
    rw [hcamera]
    dsimp only
    rw [hrequest]
    cases answers.encoder (s.request camera) with
    | error cause => rfl
    | ok encoder =>
      dsimp only [resetAudio]
      split_ifs
      · cases answers.audioReset with
        | error cause => rfl
        | ok _ =>
          dsimp only
          cases SessionConfig.ofSettings s.settings.stream s.settings.negotiation s.hasAudio <;> rfl
      · dsimp only
        cases SessionConfig.ofSettings s.settings.stream s.settings.negotiation s.hasAudio <;> rfl

theorem start_outcome (s : Streamer ε) (answers : StartAnswers ε) :
    Outcome s answers (s.start answers) := by
  rw [start_eq_prepare]
  rcases Option.eq_none_or_eq_some s.running with hrunning | ⟨run, hrunning⟩
  · cases hcamera : s.usableCamera with
    | error cause =>
      rw [prepare_of_unusable hrunning hcamera]
      exact .noCamera cause hrunning hcamera
    | ok camera =>
      obtain ⟨requests, audioResets, hprepared⟩ := s.prepare_eq answers
      rcases hprepare : s.prepare answers with ⟨cause | ⟨encoder, config⟩, streamer⟩ <;>
        rw [hprepare] at hprepared <;> obtain rfl : streamer = _ := hprepared
      · exact .unprepared camera cause requests audioResets hrunning hcamera
          (congrArg Prod.fst hprepare)
      · rcases launch_cases { s with requests, audioResets } answers encoder config with
          ⟨cause, session, hlaunch, hcause, hclosed, hmarks⟩ |
          ⟨c, run, events, hlaunch, hconnections, hopen, hcurrent, hmarks⟩ <;> dsimp only <;>
          rw [hlaunch]
        · exact .withdrawn camera cause requests audioResets session hrunning hcamera hcause hclosed
            hmarks
        · exact .started c run requests audioResets events hrunning hconnections hopen hcurrent
            hmarks
  · rw [prepare_of_running hrunning]
    exact .running run hrunning

end Streamer

end LiveCamera
