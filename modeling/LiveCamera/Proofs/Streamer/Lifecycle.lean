import LiveCamera.Proofs.Streamer.Listening
import LiveCamera.Proofs.Streamer.Outcome

/-!
# Starts and stops over time

`Sound` is what holds of a streamer between calls: connections of the past are closed, and a run has
exactly one, which is open.  Every call keeps it, whatever its collaborators answer.  `lifecycle` is
what any sequence of calls comes to; `StartsSoundly` and `StopsSoundly` say what the next start and
the next stop do then.
-/

namespace LiveCamera

namespace Streamer

variable {ε : Type}

/-! ## Sequences of calls -/

/-- A call of a streamer, with what its collaborators answer. -/
inductive Call (ε : Type)
  | bindCamera (camera : Camera)
  | bindAudio
  | start (answers : StartAnswers ε)
  | stop (closing : Except Failure Unit)

def perform (s : Streamer ε) : Call ε → Streamer ε
  | .bindCamera camera => (s.bindCamera camera).2
  | .bindAudio => s.bindAudio
  | .start answers => (s.start answers).2
  | .stop closing => s.stop closing

def performAll (s : Streamer ε) (calls : List (Call ε)) : Streamer ε := calls.foldl perform s

/-- The connections that were made and not closed. -/
def openConnections (s : Streamer ε) : List Connection := s.connections.filter (!·.isClosed)

theorem stop_of_not_running {s : Streamer ε} (h : s.running = none)
    (closing : Except Failure Unit) : s.stop closing = s := by
  simp only [stop, detach, h]
  rw [← h]

theorem stop_of_running {s : Streamer ε} {run : Run ε} (h : s.running = some run)
    (closing : Except Failure Unit) :
    s.stop closing = ({ s with running := none } : Streamer ε).conclude run closing := by
  simp only [stop, detach, h]

theorem isRunning_stop (s : Streamer ε) (closing : Except Failure Unit) :
    (s.stop closing).isRunning = false := by
  rcases Option.eq_none_or_eq_some s.running with hrunning | ⟨run, hrunning⟩
  · rw [stop_of_not_running hrunning, isRunning, hrunning]
    rfl
  · rw [stop_of_running hrunning]
    rfl

/-- What holds between calls: the connections of the past are closed, and a run has exactly one,
which is open and installed. -/
structure Sound (settings : Settings) (s : Streamer ε) : Prop where
  configured : s.settings = settings
  codec : ∃ codec, settings.stream.codec? = .ok codec
  past : ∀ c ∈ s.past, c.isClosed = true
  run : ∀ run, s.running = some run → ∃ c, run.session.connections = [c] ∧ c.isClosed = false ∧
    run.session.current = some 0
  announced : s.marks.count true = s.marks.count false + s.isRunning.toNat

namespace Sound

variable {settings : Settings} {s : Streamer ε}

theorem ofSettings (h : ofSettings settings = .ok s) : Sound settings s ∧ s.running = none := by
  unfold Streamer.ofSettings at h
  cases hcodec : settings.stream.codec? with
  | error cause => simp [hcodec, bind, Except.bind] at h
  | ok codec =>
    cases hrateControl : settings.stream.rateControl? with
    | error cause => simp [hcodec, hrateControl, bind, Except.bind] at h
    | ok rateControl =>
      simp only [hcodec, hrateControl, bind, Except.bind, pure, Except.pure] at h
      cases h
      exact ⟨⟨rfl, ⟨codec, hcodec⟩, by simp, by simp, rfl⟩, rfl⟩

theorem openConnections (h : Sound settings s) :
    s.openConnections.length = s.isRunning.toNat := by
  have hpast : s.past.filter (!·.isClosed) = [] := by
    simpa using h.past
  rw [Streamer.openConnections, connections, List.filter_append, hpast, List.nil_append]
  rcases Option.eq_none_or_eq_some s.running with hrunning | ⟨run, hrunning⟩
  · simp [isRunning, hrunning]
  · obtain ⟨c, hconnections, hopen, -⟩ := h.run run hrunning
    simp [isRunning, hrunning, hconnections, hopen]

theorem start (h : Sound settings s) (answers : StartAnswers ε) :
    Sound settings (s.start answers).2 := by
  have houtcome := s.start_outcome answers
  generalize s.start answers = started at houtcome
  cases houtcome with
  | running run hrunning => exact h
  | noCamera cause hrunning hcamera => exact h
  | unprepared => exact ⟨h.configured, h.codec, h.past, h.run, h.announced⟩
  | withdrawn camera cause requests audioResets session hrunning hcamera hcause hclosed hmarks =>
    refine ⟨h.configured, h.codec, ?_, h.run, ?_⟩
    · intro c hc
      rcases List.mem_append.mp hc with hc | hc
      · exact h.past c hc
      · exact hclosed c hc
    · rw [abandon, marks_publish, hmarks, List.append_nil]
      exact h.announced
  | started c run requests audioResets events hrunning hconnections hopen hcurrent hmarks =>
    refine ⟨h.configured, h.codec, h.past, ?_, ?_⟩
    · intro other hother
      obtain rfl := Option.some.inj hother
      exact ⟨c, hconnections, hopen, hcurrent⟩
    · have hannounced := h.announced
      rw [isRunning, hrunning] at hannounced
      rw [marks_publish, hmarks, List.count_append, List.count_append]
      change s.marks.count true + 1 = s.marks.count false + 0 + 1
      rw [hannounced]
      rfl

theorem stop (h : Sound settings s) (closing : Except Failure Unit) :
    Sound settings (s.stop closing) := by
  rcases Option.eq_none_or_eq_some s.running with hrunning | ⟨run, hrunning⟩
  · rw [stop_of_not_running hrunning]
    exact h
  · obtain ⟨c, hconnections, -, hcurrent⟩ := h.run run hrunning
    rw [stop_of_running hrunning]
    refine ⟨h.configured, h.codec, ?_, ?_, ?_⟩
    · intro d hd
      rcases List.mem_append.mp hd with hd | hd
      · exact h.past d hd
      · exact Session.isClosed_of_mem_close hconnections hcurrent closing d hd
    · intro other hother
      change none = some other at hother
      cases hother
    · have hannounced := h.announced
      rw [isRunning, hrunning] at hannounced
      rw [marks_conclude, List.count_append, List.count_append]
      change s.marks.count true + 0 = s.marks.count false + 1 + 0
      rw [hannounced]
      rfl

theorem perform (h : Sound settings s) (call : Call ε) : Sound settings (s.perform call) := by
  cases call with
  | bindCamera camera =>
    rw [Streamer.perform, bindCamera]
    split_ifs
    · exact h
    · exact ⟨h.configured, h.codec, h.past, h.run, h.announced⟩
  | bindAudio => exact ⟨h.configured, h.codec, h.past, h.run, h.announced⟩
  | start answers => exact h.start answers
  | stop closing => exact h.stop closing

theorem performAll (h : Sound settings s) (calls : List (Call ε)) :
    Sound settings (s.performAll calls) := by
  induction calls generalizing s with
  | nil => exact h
  | cons call calls ih => exact ih (h.perform call)

end Sound

/-- A call that succeeds in starting, or lets a run go on. -/
theorem isRunning_perform (s : Streamer ε) (call : Call ε) :
    (s.perform call).isRunning = true ↔
      (s.isRunning = true ∧ ∀ closing, call ≠ .stop closing) ∨
        ∃ answers, call = .start answers ∧ (s.start answers).1 = .ok () := by
  cases call with
  | bindCamera camera =>
    have hsame : (s.perform (.bindCamera camera)).isRunning = s.isRunning := by
      rw [perform, bindCamera]
      split_ifs <;> rfl
    simp [hsame]
  | bindAudio => simp [perform, bindAudio, isRunning]
  | start answers =>
    have houtcome := s.start_outcome answers
    simp only [perform, ne_eq, reduceCtorEq, not_false_eq_true, implies_true, and_true,
      Call.start.injEq]
    generalize hstarted : s.start answers = started at houtcome
    cases houtcome with
    | running run hrunning => simp [isRunning, hrunning]
    | noCamera cause hrunning hcamera => simp [isRunning, hrunning, hstarted]
    | unprepared => simp [isRunning, hstarted]
    | withdrawn => simp [isRunning, hstarted, abandon, publish]
    | started => simp [isRunning, hstarted, publish]
  | stop closing => simp [perform, isRunning_stop]

/-- A streamer runs if it ran already, or a start has succeeded, and no stop came after that. -/
theorem isRunning_performAll (s : Streamer ε) (calls : List (Call ε)) :
    (s.performAll calls).isRunning = true ↔
      (s.isRunning = true ∧ ∀ closing, .stop closing ∉ calls) ∨
        ∃ before answers after, calls = before ++ .start answers :: after ∧
          ((s.performAll before).start answers).1 = .ok () ∧ ∀ closing, .stop closing ∉ after := by
  induction calls generalizing s with
  | nil => simp [performAll]
  | cons call calls ih =>
    have hnext : s.performAll (call :: calls) = (s.perform call).performAll calls := rfl
    rw [hnext, ih, isRunning_perform]
    constructor
    · rintro (⟨⟨hrunning, hcall⟩ | ⟨answers, rfl, hok⟩, hcalls⟩ |
        ⟨before, answers, after, rfl, hok, hafter⟩)
      · refine .inl ⟨hrunning, fun closing hmem ↦ ?_⟩
        rcases List.mem_cons.mp hmem with hfirst | hlater
        · exact hcall closing hfirst.symm
        · exact hcalls closing hlater
      · exact .inr ⟨[], answers, calls, rfl, hok, hcalls⟩
      · exact .inr ⟨call :: before, answers, after, rfl, hok, hafter⟩
    · rintro (⟨hrunning, hcalls⟩ | ⟨before, answers, after, hsplit, hok, hafter⟩)
      · refine .inl ⟨.inl ⟨hrunning, fun closing hcall ↦ ?_⟩, fun closing hmem ↦ ?_⟩
        · exact hcalls closing (hcall ▸ List.mem_cons_self)
        · exact hcalls closing (List.mem_cons_of_mem call hmem)
      · cases before with
        | nil =>
          obtain ⟨rfl, rfl⟩ := List.cons.inj hsplit
          exact .inl ⟨.inr ⟨answers, rfl, hok⟩, hafter⟩
        | cons first before =>
          obtain ⟨rfl, rfl⟩ := List.cons.inj hsplit
          exact .inr ⟨before, answers, after, rfl, hok, hafter⟩

/-! ## The next start and the next stop -/

/-- Whether a start gets as far as the audio source, and that one fails in the words of a streamer
that runs. -/
def AudioSaysBusy (s : Streamer ε) (answers : StartAnswers ε) : Prop :=
  (∃ camera encoder, s.usableCamera = .ok camera ∧
    answers.encoder (s.request camera) = .ok encoder) ∧ s.hasAudio = true ∧
    ∃ cause, answers.audioReset = .error cause ∧ cause.kind = .busy

/-- Whether no collaborator of a start fails, with these settings. -/
structure Works (settings : Settings) (answers : StartAnswers ε) : Prop where
  encoder : ∀ request, ∃ encoder, answers.encoder request = .ok encoder
  audioReset : answers.audioReset = .ok ()
  connect : answers.transport.connect = .ok ()
  addVideo : answers.transport.addVideo = .ok ()
  addAudio : answers.transport.addAudio = .ok ()
  createOffer : ∃ description, answers.transport.createOffer = .ok description
  /-- The page is served where nothing else listens. -/
  page : settings.stream.servesPage = true →
    answers.canListen settings.stream.bindAddress settings.stream.port = true
  /-- So is signaling, if it is hosted; the page must have left it the port. -/
  signaling : settings.stream.hostsSignaling = true →
    answers.canListen settings.stream.bindAddress settings.stream.signalingPort = true ∧
      (settings.stream.servesPage = true → settings.stream.port ≠ 0 →
        settings.stream.port ≠ settings.stream.signalingPort)
  endpoint : settings.stream.hostsSignaling = false →
    answers.canReach (Text.trim settings.stream.signalingAddress)
      settings.stream.signalingPort = true

/-- The listeners that the steps of a start open and close. -/
def deedsOfStart (s : Streamer ε) (answers : StartAnswers ε) : List Deed :=
  (Course.of s).deedsAll (Course.startMoves answers)

def deedsOfStop (s : Streamer ε) (closing : Except Failure Unit) : List Deed :=
  (Course.of s).deedsAll (Course.stopMoves closing)

/-- What a start comes to, for its caller, the streamer and whatever it has opened. -/
structure StartsSoundly (s : Streamer ε) (answers : StartAnswers ε) : Prop where
  busy : (∃ cause, (s.start answers).1 = .error cause ∧ cause.kind = .busy) ↔
    s.isRunning = true ∨ s.AudioSaysBusy answers
  /-- A start of a streamer that runs changes nothing. -/
  running : s.isRunning = true → s.start answers = (.error .alreadyRunning, s)
  /-- Without a camera no collaborator is asked for anything. -/
  noCamera : s.isRunning = false → s.camera = none →
    ∃ cause, s.start answers = (.error cause, s) ∧ cause.kind = .notReady
  noWidth : s.isRunning = false → ∀ camera, s.camera = some camera → camera.size.width % 32 ≠ 0 →
    ∃ cause, s.start answers = (.error cause, s) ∧ cause.kind = .argument
  /-- What a failed start has opened is closed, and it is not announced. -/
  failed : s.isRunning = false → ∀ cause, (s.start answers).1 = .error cause →
    let after := (s.start answers).2
    after.isRunning = false ∧ after.camera = s.camera ∧ after.marks = s.marks ∧
      (∃ made, after.connections = s.connections ++ made ∧ ∀ c ∈ made, c.isClosed = true) ∧
      ∀ listener, (s.deedsOfStart answers).count (.opens listener) =
        (s.deedsOfStart answers).count (.closes listener)
  /-- A successful start is announced once, and what it has opened belongs to the run. -/
  succeeded : (s.start answers).1 = .ok () →
    let after := (s.start answers).2
    after.marks = s.marks ++ [true] ∧ after.openConnections.length = 1 ∧
      ∃ run, after.running = some run ∧ s.deedsOfStart answers = run.listeners.map .opens
  works : s.isRunning = false → (∃ camera, s.camera = some camera ∧ camera.size.width % 32 = 0) →
    Works s.settings answers → (s.start answers).1 = .ok ()

/-- What a stop comes to. -/
structure StopsSoundly (s : Streamer ε) (closing : Except Failure Unit) : Prop where
  stopped : (s.stop closing).isRunning = false
  closed : (s.stop closing).openConnections = []
  marks : (s.stop closing).marks = s.marks ++ if s.isRunning then [false] else []
  listeners : ∀ run, s.running = some run → ∀ listener,
    (s.deedsOfStop closing).count (.closes listener) = run.listeners.count listener

variable {settings : Settings} {s : Streamer ε} {answers : StartAnswers ε}

theorem isRunning_eq_false : s.isRunning = false ↔ s.running = none := by
  rw [isRunning, Option.isSome_eq_false_iff, Option.isNone_iff_eq_none]

theorem start_of_running (h : s.isRunning = true) :
    s.start answers = (.error .alreadyRunning, s) := by
  obtain ⟨run, hrunning⟩ := Option.isSome_iff_exists.mp h
  rw [start_eq_prepare, prepare_of_running hrunning]

theorem start_of_unusable {cause : Failure} (hrunning : s.isRunning = false)
    (hcamera : s.usableCamera = .error cause) : s.start answers = (.error cause, s) := by
  rw [start_eq_prepare, prepare_of_unusable (isRunning_eq_false.mp hrunning) hcamera]

theorem start_of_unprepared {cause : Failure} (h : (s.prepare answers).1 = .error cause) :
    (s.start answers).1 = .error cause := by
  rw [start_eq_prepare]
  rcases hprepare : s.prepare answers with ⟨_ | _, after⟩ <;> rw [hprepare] at h
  · obtain rfl := Except.error.inj h
    rfl
  · cases h

theorem usableCamera_of_none (h : s.camera = none) :
    s.usableCamera = .error .noCameraForStart := by
  simp only [usableCamera, h]

theorem usableCamera_of_some {camera : Camera} (h : s.camera = some camera) :
    s.usableCamera = if camera.size.width % widthAlignment = 0 then .ok camera
      else .error (.cameraWidth camera.size.width widthAlignment) := by
  simp only [usableCamera, h]

theorem kind_of_usableCamera {cause : Failure} (h : s.usableCamera = .error cause) :
    cause.kind ≠ .busy := by
  cases hcamera : s.camera with
  | none =>
    rw [usableCamera_of_none hcamera] at h
    cases h
    decide
  | some camera =>
    rw [usableCamera_of_some hcamera] at h
    split_ifs at h
    cases h
    intro hkind
    cases hkind

theorem Sound.exists_config (h : Sound settings s) :
    ∃ config, SessionConfig.ofSettings s.settings.stream s.settings.negotiation s.hasAudio =
      .ok config := by
  obtain ⟨codec, hcodec⟩ := h.codec
  rw [h.configured]
  simp [SessionConfig.ofSettings, hcodec, bind, Except.bind, pure, Except.pure]

/-- Only the audio source can make a start say busy that finds nothing running. -/
theorem Sound.audioSaysBusy_of_prepare (h : Sound settings s) {camera : Camera} {cause : Failure}
    (hrunning : s.running = none) (hcamera : s.usableCamera = .ok camera)
    (hprepare : (s.prepare answers).1 = .error cause) (hcause : cause.kind = .busy) :
    s.AudioSaysBusy answers := by
  obtain ⟨config, hconfig⟩ := h.exists_config
  rw [prepare_fst hrunning hcamera, hconfig] at hprepare
  cases hencoder : answers.encoder (s.request camera) with
  | error refused =>
    rw [hencoder] at hprepare
    cases hprepare
    cases hcause
  | ok encoder =>
    rw [hencoder] at hprepare
    dsimp only at hprepare
    split_ifs at hprepare with haudio
    · cases hreset : answers.audioReset with
      | error refused =>
        rw [hreset] at hprepare
        cases hprepare
        exact ⟨⟨camera, encoder, hcamera, hencoder⟩, haudio, cause, hreset, hcause⟩
      | ok _ =>
        rw [hreset] at hprepare
        cases hprepare

theorem Sound.busy_iff (h : Sound settings s) (answers : StartAnswers ε) :
    (∃ cause, (s.start answers).1 = .error cause ∧ cause.kind = .busy) ↔
      s.isRunning = true ∨ s.AudioSaysBusy answers := by
  constructor
  · rintro ⟨cause, herror, hcause⟩
    have houtcome := s.start_outcome answers
    generalize s.start answers = started at houtcome herror
    cases houtcome with
    | running run hrunning => exact .inl (by rw [isRunning, hrunning]; rfl)
    | noCamera refused hrunning hcamera =>
      cases herror
      exact absurd hcause (kind_of_usableCamera hcamera)
    | unprepared camera refused requests audioResets hrunning hcamera hprepare =>
      cases herror
      exact .inr (h.audioSaysBusy_of_prepare hrunning hcamera hprepare hcause)
    | withdrawn camera refused requests audioResets session hrunning hcamera hkind =>
      cases herror
      cases hkind.symm.trans hcause
    | started => cases herror
  · intro hbusy
    cases hrunning : s.isRunning with
    | true => exact ⟨.alreadyRunning, by rw [start_of_running hrunning], rfl⟩
    | false =>
      obtain ⟨⟨camera, encoder, hcamera, hencoder⟩, haudio, cause, hreset, hcause⟩ :=
        hbusy.resolve_left (by simp [hrunning])
      refine ⟨cause, start_of_unprepared ?_, hcause⟩
      simp only [prepare_fst (isRunning_eq_false.mp hrunning) hcamera, hencoder, haudio, hreset,
        if_true]

/-- A failed start of a streamer that does not run has opened nothing that it has not closed. -/
theorem failed_start (hrunning : s.isRunning = false) {cause : Failure}
    (h : (s.start answers).1 = .error cause) :
    let after := (s.start answers).2
    after.isRunning = false ∧ after.camera = s.camera ∧ after.marks = s.marks ∧
      ∃ made, after.connections = s.connections ++ made ∧ ∀ c ∈ made, c.isClosed = true := by
  have houtcome := s.start_outcome answers
  generalize s.start answers = started at houtcome h
  cases houtcome with
  | running run hsome => simp [isRunning, hsome] at hrunning
  | noCamera => exact ⟨hrunning, rfl, rfl, [], (List.append_nil _).symm, by simp⟩
  | unprepared => exact ⟨hrunning, rfl, rfl, [], (List.append_nil _).symm, by simp⟩
  | withdrawn camera refused requests audioResets session hnone hcamera hkind hclosed hmarks =>
    refine ⟨hrunning, rfl, ?_, session.connections, ?_, hclosed⟩
    · rw [abandon, marks_publish, hmarks, List.append_nil]
      rfl
    · simp [connections, abandon, publish, hnone]
  | started => cases h

theorem deedsOfStart_of_error {cause : Failure} (h : (s.start answers).1 = .error cause)
    (listener : Listener) :
    (s.deedsOfStart answers).count (.opens listener) =
      (s.deedsOfStart answers).count (.closes listener) := by
  rcases Course.deedsAll_startMoves (x := .of s) rfl answers with
    ⟨_, hok, -⟩ | ⟨-, hdeeds | hdeeds⟩
  · cases hok.symm.trans h
  · rw [deedsOfStart, hdeeds]
    rfl
  · rw [deedsOfStart, hdeeds]
    cases listener <;> rfl

theorem Sound.succeeded_start (h : Sound settings s) (hok : (s.start answers).1 = .ok ()) :
    let after := (s.start answers).2
    after.marks = s.marks ++ [true] ∧ after.openConnections.length = 1 ∧
      ∃ run, after.running = some run ∧ s.deedsOfStart answers = run.listeners.map .opens := by
  intro after
  have hrunning : after.isRunning = true :=
    (s.isRunning_perform (.start answers)).mpr (.inr ⟨answers, rfl, hok⟩)
  have hopen : after.openConnections.length = 1 := by
    rw [(h.start answers).openConnections, hrunning]
    rfl
  have hmarks : after.marks = s.marks ++ [true] := by
    have houtcome := s.start_outcome answers
    unfold after
    generalize s.start answers = started at houtcome hok
    cases houtcome with
    | started c run requests audioResets events hnone hconnections hunclosed hcurrent hmarks =>
      rw [marks_publish, hmarks]
      rfl
    | running => cases hok
    | noCamera => cases hok
    | unprepared => cases hok
    | withdrawn => cases hok
  refine ⟨hmarks, hopen, ?_⟩
  rcases Course.deedsAll_startMoves (x := .of s) rfl answers with
    ⟨run, -, hrun, hdeeds⟩ | ⟨⟨cause, herror⟩, -⟩
  · exact ⟨run, hrun, hdeeds⟩
  · cases hok.symm.trans herror

theorem openDoors_of_works (h : Works s.settings answers) :
    ∃ doors, s.openDoors answers = .ok doors := by
  have hpage : s.servePage answers =
      .ok (if s.settings.stream.servesPage then [.page] else []) := by
    unfold servePage
    cases hserves : s.settings.stream.servesPage with
    | false => simp [hserves]
    | true => simp [hserves, h.page hserves]
  have hserved : (!(if s.settings.stream.servesPage then [Listener.page] else []).isEmpty) =
      s.settings.stream.servesPage := by
    cases s.settings.stream.servesPage <;> rfl
  obtain ⟨joined, hjoined⟩ :
      ∃ joined, s.joinSignaling answers s.settings.stream.servesPage = .ok joined := by
    unfold joinSignaling
    cases hhosts : s.settings.stream.hostsSignaling with
    | false => exact ⟨(.client, []), by simp [hhosts, h.endpoint hhosts]⟩
    | true =>
      obtain ⟨hlisten, hfree⟩ := h.signaling hhosts
      refine ⟨(.server, [.signaling]), ?_⟩
      simpa [hhosts, hlisten] using hfree
  rw [← hserved] at hjoined
  simp only [openDoors, hpage, hjoined, bind, Except.bind, pure, Except.pure]
  exact ⟨_, rfl⟩

/-- A start succeeds if no collaborator fails. -/
theorem Sound.start_of_works (h : Sound settings s) (hrunning : s.isRunning = false)
    {camera : Camera} (hcamera : s.camera = some camera) (hwidth : camera.size.width % 32 = 0)
    (hworks : Works s.settings answers) : (s.start answers).1 = .ok () := by
  have husable : s.usableCamera = .ok camera :=
    (usableCamera_of_some hcamera).trans (if_pos hwidth)
  obtain ⟨encoder, hencoder⟩ := hworks.encoder (s.request camera)
  obtain ⟨config, hconfig⟩ := h.exists_config
  obtain ⟨requests, audioResets, hprepared⟩ := s.prepare_eq answers
  have hprepare : (s.prepare answers).1 = .ok (encoder, config) := by
    simp only [prepare_fst (isRunning_eq_false.mp hrunning) husable, hencoder, hworks.audioReset,
      ite_self, hconfig]
  obtain ⟨doors, hdoors⟩ := openDoors_of_works hworks
  obtain ⟨description, hoffer⟩ := hworks.createOffer
  have hestablish := Session.establish_new_of_works config hworks.connect hworks.addVideo
    hworks.addAudio hoffer
  have hlaunch : ({ s with requests, audioResets } : Streamer ε).openDoors answers = .ok doors :=
    hdoors
  rw [start_eq_prepare, show s.prepare answers = (_, _) from Prod.ext hprepare hprepared]
  dsimp only
  unfold launch
  rcases hopened : (Session.new config []).establish answers.transport with
    ⟨cause | _, session⟩ <;> rw [hopened] at hestablish
  · cases hestablish
  · dsimp only
    rw [hlaunch]

theorem Sound.startsSoundly (h : Sound settings s) (answers : StartAnswers ε) :
    StartsSoundly s answers where
  busy := h.busy_iff answers
  running := start_of_running
  noCamera := by
    intro hrunning hcamera
    exact ⟨.noCameraForStart, start_of_unusable hrunning (usableCamera_of_none hcamera), rfl⟩
  noWidth := by
    intro hrunning camera hcamera hwidth
    have hunusable := (usableCamera_of_some hcamera).trans (if_neg hwidth)
    exact ⟨_, start_of_unusable hrunning hunusable, rfl⟩
  failed := by
    intro hrunning cause herror
    obtain ⟨hstopped, hcamera, hmarks, hmade⟩ := failed_start hrunning herror
    exact ⟨hstopped, hcamera, hmarks, hmade, deedsOfStart_of_error herror⟩
  succeeded := h.succeeded_start
  works := by
    rintro hrunning ⟨camera, hcamera, hwidth⟩ hworks
    exact h.start_of_works hrunning hcamera hwidth hworks

theorem Sound.stopsSoundly (h : Sound settings s) (closing : Except Failure Unit) :
    StopsSoundly s closing := by
  have hopen : (s.stop closing).openConnections = [] := by
    rw [← List.length_eq_zero_iff, (h.stop closing).openConnections, isRunning_stop]
    rfl
  refine ⟨s.isRunning_stop closing, hopen, ?_, ?_⟩
  · rcases Option.eq_none_or_eq_some s.running with hrunning | ⟨run, hrunning⟩
    · rw [stop_of_not_running hrunning, isRunning, hrunning]
      exact (List.append_nil _).symm
    · rw [stop_of_running hrunning, marks_conclude, isRunning, hrunning]
      rfl
  · intro run hrunning listener
    exact Course.count_closes_stopMoves (x := .of s) rfl rfl hrunning closing listener

/-! ## Whole histories -/

/-- A streamer over any sequence of calls.  It runs exactly if a start has succeeded and no stop
came after it; then one connection is open, otherwise none, and every start that was announced was
stopped but the one of the run.  What the next start and the next stop do is `StartsSoundly` and
`StopsSoundly`. -/
theorem lifecycle {settings : Settings} {s : Streamer ε} (hs : ofSettings settings = .ok s)
    (calls : List (Call ε)) :
    let x := s.performAll calls
    x.settings = settings ∧
      (x.isRunning = true ↔ ∃ before answers after, calls = before ++ .start answers :: after ∧
        ((s.performAll before).start answers).1 = .ok () ∧ ∀ closing, .stop closing ∉ after) ∧
      x.openConnections.length = x.isRunning.toNat ∧
      x.marks.count true = x.marks.count false + x.isRunning.toNat ∧
      (∀ answers, StartsSoundly x answers) ∧ ∀ closing, StopsSoundly x closing := by
  intro x
  obtain ⟨hsound, hrunning⟩ := Sound.ofSettings hs
  have hx : Sound settings x := hsound.performAll calls
  refine ⟨hx.configured, ?_, hx.openConnections, hx.announced, hx.startsSoundly, hx.stopsSoundly⟩
  rw [isRunning_performAll, isRunning, hrunning]
  simp

open Course (anyPorts anyPortsStreamer ofSettings_anyPorts workingAnswers)

/-- A start whose transport fails to make an offer, a start that succeeds, and a third one. -/
theorem lifecycle_failing_offer :
    let failing : StartAnswers Unit :=
      { workingAnswers with
        transport := { TransportAnswers.working none with
          createOffer := .error (.reported .transport "offer failed") } }
    let calls : List (Call Unit) :=
      [.bindCamera ⟨⟨64, 64⟩, .nv21, 30⟩, .start failing, .start workingAnswers]
    let x := anyPortsStreamer.performAll calls
    ofSettings anyPorts = .ok anyPortsStreamer ∧ x.isRunning = true ∧ x.connections.length = 2 ∧
      x.openConnections.length = 1 ∧ x.start failing = (.error .alreadyRunning, x) ∧
      (x.stop (.ok ())).openConnections = [] := by
  intro failing calls x
  obtain ⟨-, hiff, hopen, -, hstart, hstop⟩ := lifecycle ofSettings_anyPorts calls
  have hrunning : x.isRunning = true := by
    refine hiff.mpr ⟨[.bindCamera ⟨⟨64, 64⟩, .nv21, 30⟩, .start failing], workingAnswers, [], rfl,
      ?_, by simp⟩
    decide +kernel
  have hone : x.openConnections.length = 1 := by
    rw [hopen, hrunning]
    rfl
  exact ⟨ofSettings_anyPorts, hrunning, by decide +kernel, hone, (hstart failing).running hrunning,
    (hstop (.ok ())).closed⟩

/-- An audio source that fails in the words of a streamer that runs is passed on as it is, while
nothing runs. -/
theorem not_always_running_when_busy :
    ¬ ∀ settings (s : Streamer Unit) (calls : List (Call Unit)) (answers : StartAnswers Unit)
      (cause : Failure), ofSettings settings = .ok s →
        ((s.performAll calls).start answers).1 = .error cause → cause.kind = .busy →
        (s.performAll calls).isRunning = true := by
  intro hall
  have hrunning := hall anyPorts anyPortsStreamer
    [.bindCamera ⟨⟨64, 64⟩, .nv21, 30⟩, .bindAudio]
    { workingAnswers with audioReset := .error (.reported .busy "scripted") }
    (.reported .busy "scripted") ofSettings_anyPorts rfl rfl
  exact absurd hrunning (by decide)

end Streamer

end LiveCamera
