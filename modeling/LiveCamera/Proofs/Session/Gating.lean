import LiveCamera.Proofs.Session.Operations

/-!
# State and tracks of a session agree

The state of a session, the connection that is installed, the generation whose reports count and the
gates of the tracks are written by different operations and by the reports of connections.
`Coherent` says how they agree; every operation keeps it, and so does each half of a reset.
`gating` is what it comes to after any run.
-/

namespace LiveCamera.Session

/-- How the parts of a session agree between any two steps. -/
structure Coherent (s : Session) : Prop where
  numbered : ∀ (place : Nat) (c : Connection), s.connections[place]? = some c →
    0 < c.generation ∧ c.generation ≤ s.generation
  live : ∀ (place : Nat) (c : Connection), s.connections[place]? = some c →
    c.generation = s.liveGeneration → s.current = some place
  installed : ∀ place, s.current = some place → ∃ c, s.connections[place]? = some c ∧
    c.Serves s.liveGeneration s.config.audio (s.state = .connected)
  vacant : s.current = none →
    s.liveGeneration = 0 ∧ s.state ≠ .negotiating ∧ s.state ≠ .connected
  shutdown : s.shutdown = true → s.current = none

theorem coherent_new (config : SessionConfig) (journal : List StreamEvent) :
    (new config journal).Coherent where
  numbered := by simp [new]
  live := by simp [new]
  installed := by simp [new]
  vacant := by simp [new]
  shutdown := by simp [new]

namespace Coherent

variable {s : Session}

theorem publish (h : s.Coherent) (event : StreamEvent) : (s.publish event).Coherent :=
  ⟨h.numbered, h.live, h.installed, h.vacant, h.shutdown⟩

theorem reopen (h : s.Coherent) : ({ s with shutdown := false } : Session).Coherent :=
  ⟨h.numbered, h.live, h.installed, h.vacant, by simp⟩

/-- Changing a connection without changing its generation keeps the generations apart. -/
theorem numbered_modify (h : s.Coherent) (place : Nat) {f : Connection → Connection}
    (hf : ∀ c, (f c).generation = c.generation) (other : Nat) (c : Connection)
    (hc : (s.modify place f).connections[other]? = some c) :
    ∃ old, s.connections[other]? = some old ∧ c.generation = old.generation ∧
      0 < c.generation ∧ c.generation ≤ s.generation := by
  obtain ⟨old, hold, rfl⟩ := getElem?_modify_connections hc
  have hgeneration : (if place = other then f old else old).generation = old.generation := by
    split_ifs
    · exact hf old
    · rfl
  refine ⟨old, hold, hgeneration, ?_⟩
  rw [hgeneration]
  exact h.numbered other old hold

/-- A session that gives its connection up is closed. -/
theorem vacate (h : s.Coherent) (shutdown : Bool) (answer : Except Failure Unit) :
    ((({ s with shutdown } : Session).retire answer).setState .closed).Coherent := by
  rcases Option.eq_none_or_eq_some s.current with hcurrent | ⟨current, hcurrent⟩
  · rw [vacate_of_none hcurrent, setState_eq]
    refine ⟨h.numbered, h.live, ?_, ?_, fun _ ↦ hcurrent⟩
    · intro place hplace
      simp [hcurrent] at hplace
    · simp [(h.vacant hcurrent).1]
  · rw [vacate_of_some hcurrent, setState_eq]
    have hnumbered := h.numbered_modify current (f := (·.retired answer)) fun _ ↦ rfl
    refine ⟨?_, ?_, by simp [modify], by simp [modify], fun _ ↦ rfl⟩
    · intro place c hc
      obtain ⟨-, -, -, hbounds⟩ := hnumbered place c hc
      exact hbounds
    · intro place c hc hlive
      obtain ⟨-, -, -, hpositive, -⟩ := hnumbered place c hc
      exact absurd hlive (Nat.ne_of_gt hpositive)

/-- The connections of a session with more connections of the next generation. -/
theorem numbered_append (h : s.Coherent) {more : List Connection}
    (hmore : ∀ c ∈ more, c.generation = s.generation + 1) {place : Nat} {c : Connection}
    (hc : (s.connections ++ more)[place]? = some c) :
    s.connections[place]? = some c ∧ 0 < c.generation ∧ c.generation ≤ s.generation ∨
      s.connections.length ≤ place ∧ c ∈ more ∧ c.generation = s.generation + 1 := by
  rw [List.getElem?_append] at hc
  split_ifs at hc with hplace
  · exact .inl ⟨hc, h.numbered place c hc⟩
  · have hmem := List.mem_of_getElem? hc
    exact .inr ⟨Nat.le_of_not_lt hplace, hmem, hmore c hmem⟩

/-- The connection that a build installs is the only one of its generation. -/
theorem build (h : s.Coherent) (hcurrent : s.current = none) (hshutdown : s.shutdown = false)
    (answers : TransportAnswers) : (s.build answers).2.Coherent := by
  rcases s.build_cases answers with ⟨cause, rejected, hbuild, hrejected⟩ |
    ⟨installed, hbuild, hgeneration, hready, hvideo, haudio⟩
  · rw [hbuild]
    refine ⟨?_, ?_, ?_, h.vacant, fun _ ↦ hcurrent⟩
    · intro place c hc
      have := h.numbered_append hrejected hc
      dsimp only
      omega
    · intro place c hc hlive
      dsimp only at hlive
      rw [(h.vacant hcurrent).1] at hlive
      have := h.numbered_append hrejected hc
      omega
    · intro place hplace
      rw [hcurrent] at hplace
      cases hplace
  · rw [hbuild, setState_eq]
    have hmore : ∀ c ∈ [installed], c.generation = s.generation + 1 := by simpa using hgeneration
    refine ⟨?_, ?_, ?_, by simp, by simp [hshutdown]⟩
    · intro place c hc
      have := h.numbered_append hmore hc
      dsimp only
      omega
    · intro place c hc hlive
      dsimp only at hlive ⊢
      -- Earlier connections are of earlier generations, so only the new one can be live.
      rcases h.numbered_append hmore hc with ⟨-, -, hle⟩ | ⟨hplace, -, -⟩
      · omega
      · have hlength := (List.getElem?_eq_some_iff.mp hc).1
        simp at hlength
        congr 1
        omega
    · intro place hplace
      cases hplace
      exact ⟨installed, by simp, hgeneration, hready, by simpa using hvideo, by simpa using haudio⟩

/-- Opening or shutting the tracks of the installed connection goes with the state. -/
theorem switch (h : s.Coherent) {current : Nat} (hcurrent : s.current = some current)
    (wanted : Bool) {state : SessionState} (hstate : decide (state = .connected) = wanted) :
    ((s.modify current (·.setTracksOpen wanted)).setState state).Coherent := by
  have hnumbered := h.numbered_modify current (f := (·.setTracksOpen wanted)) fun _ ↦ rfl
  rw [setState_eq]
  refine ⟨?_, ?_, ?_, ?_, h.shutdown⟩
  · intro place c hc
    obtain ⟨-, -, -, hbounds⟩ := hnumbered place c hc
    exact hbounds
  · intro place c hc hlive
    obtain ⟨old, hold, hgeneration, -, -⟩ := hnumbered place c hc
    exact h.live place old hold (hgeneration ▸ hlive)
  · intro place hplace
    obtain rfl : current = place := Option.some.inj (hcurrent ▸ hplace)
    obtain ⟨c, hc, hserves⟩ := h.installed current hcurrent
    refine ⟨c.setTracksOpen wanted, by simp [modify, hc], ?_⟩
    simpa only [hstate, modify] using hserves.setTracksOpen wanted
  · intro hnone
    simp [modify, hcurrent] at hnone

/-- Changing what a session does not look at in a connection. -/
theorem modify (h : s.Coherent) (place : Nat) {f : Connection → Connection}
    (hgeneration : ∀ c, (f c).generation = c.generation) (hvideo : ∀ c, (f c).video = c.video)
    (haudio : ∀ c, (f c).audio = c.audio) : (s.modify place f).Coherent := by
  have hnumbered := h.numbered_modify place hgeneration
  refine ⟨?_, ?_, ?_, h.vacant, h.shutdown⟩
  · intro other c hc
    obtain ⟨-, -, -, hbounds⟩ := hnumbered other c hc
    exact hbounds
  · intro other c hc hlive
    obtain ⟨old, hold, hsame, -, -⟩ := hnumbered other c hc
    exact h.live other old hold (hsame ▸ hlive)
  · intro current hcurrent
    obtain ⟨c, hc, hserves⟩ := h.installed current hcurrent
    by_cases hplace : place = current
    · refine ⟨f c, by simp [Session.modify, hplace, hc], ?_⟩
      exact hserves.congr (hgeneration c) (hvideo c) (haudio c)
    · exact ⟨c, by simp [Session.modify, hplace, hc], hserves⟩

/-- What a connection reports has an effect only if it is the installed one. -/
theorem report (h : s.Coherent) (place : Nat) (event : TransportEvent) :
    (s.report place event).Coherent := by
  rcases s.report_cases place event with hreport | ⟨wanted, state, hreport, hlive, hstate⟩ <;>
    rw [hreport]
  · exact h
  · obtain ⟨c, hc, hgeneration⟩ := isLive_iff.mp hlive
    exact h.switch (h.live place c hc hgeneration) wanted hstate

theorem establish (h : s.Coherent) (answers : TransportAnswers) :
    (s.establish answers).2.Coherent := by
  rcases Option.eq_none_or_eq_some s.current with hcurrent | ⟨current, hcurrent⟩
  · rw [establish_of_none hcurrent]
    exact h.reopen.build hcurrent rfl answers
  · rw [establish_of_some hcurrent]
    exact h.reopen

theorem giveUp (h : s.Coherent) (answer : Except Failure Unit) : (s.giveUp answer).Coherent := by
  rcases Option.eq_none_or_eq_some s.current with hcurrent | ⟨current, hcurrent⟩
  · rw [giveUp_of_none hcurrent]
    exact h
  · rw [giveUp_of_some hcurrent]
    exact h.vacate s.shutdown answer

theorem rebuild (h : s.Coherent) (hcurrent : s.current = none) (hshutdown : s.shutdown = false)
    (answers : TransportAnswers) : (s.rebuild answers).2.Coherent := by
  have hbuild := h.build hcurrent hshutdown answers
  rcases rebuild_cases s answers with hrebuild | hrebuild <;> rw [hrebuild]
  · exact hbuild
  · exact hbuild.publish _

theorem reset (h : s.Coherent) (closing : Except Failure Unit) (answers : TransportAnswers) :
    (s.reset closing answers).2.Coherent := by
  unfold Session.reset
  split_ifs with hshutdown
  · exact h
  · have hgiveUp := h.giveUp closing
    refine hgiveUp.rebuild (current_giveUp s closing) ?_ answers
    rw [shutdown_giveUp]
    simpa using hshutdown

theorem close (h : s.Coherent) (closing : Except Failure Unit) : (s.close closing).Coherent :=
  h.vacate true closing

end Coherent

theorem Coherent.step {s : Session} (h : s.Coherent) (operation : Operation) :
    (s.step operation).Coherent := by
  cases operation with
  | establish answers => exact h.establish answers
  | reset closing answers => exact h.reset closing answers
  | close closing => exact h.close closing
  | report place event => exact h.report place event

theorem Coherent.run {s : Session} (h : s.Coherent) (operations : List Operation) :
    (s.run operations).Coherent := by
  induction operations generalizing s with
  | nil => exact h
  | cons operation operations ih => exact ih (h.step operation)

namespace Coherent

variable {s : Session}

/-- The connection that is installed, in a session whose parts agree. -/
theorem connection?_cases (h : s.Coherent) :
    s.current = none ∧ s.connection? = none ∨
      ∃ place c, s.current = some place ∧ s.connection? = some c ∧
        c.Serves s.liveGeneration s.config.audio (s.state = .connected) := by
  unfold connection?
  rcases Option.eq_none_or_eq_some s.current with hcurrent | ⟨place, hcurrent⟩
  · exact .inl ⟨hcurrent, by rw [hcurrent]; rfl⟩
  · obtain ⟨c, hc, hserves⟩ := h.installed place hcurrent
    exact .inr ⟨place, c, hcurrent, by rw [hcurrent]; exact hc, hserves⟩

theorem isVideoOpen_iff (h : s.Coherent) : s.isVideoOpen = true ↔ s.state = .connected := by
  rcases h.connection?_cases with ⟨hcurrent, hnone⟩ | ⟨_, c, -, hsome, hserves⟩
  · simp [isVideoOpen, hnone, (h.vacant hcurrent).2.2]
  · simp [isVideoOpen, hsome, hserves.video]

theorem audio_of_connection? (h : s.Coherent) (haudio : s.config.audio = true) {c : Connection}
    (hc : s.connection? = some c) :
    c.audio.isSome = true ∧ (c.isAudioOpen = true ↔ c.isVideoOpen = true) := by
  rcases h.connection?_cases with ⟨-, hnone⟩ | ⟨_, installed, -, hsome, hserves⟩
  · simp [hnone] at hc
  · obtain rfl : installed = c := by simpa [hsome] using hc
    exact ⟨hserves.ready.hasAudio.trans haudio, by simp [hserves.video, hserves.audio, haudio]⟩

theorem isSome_connection? (h : s.Coherent)
    (hstate : s.state = .negotiating ∨ s.state = .connected) : s.connection?.isSome = true := by
  rcases h.connection?_cases with ⟨hcurrent, -⟩ | ⟨_, c, -, hsome, -⟩
  · obtain ⟨-, hnegotiating, hconnected⟩ := h.vacant hcurrent
    exact absurd hstate (not_or.mpr ⟨hnegotiating, hconnected⟩)
  · rw [hsome]
    rfl

theorem liveGeneration_eq (h : s.Coherent) :
    s.liveGeneration = (s.connection?.map (·.generation)).getD 0 := by
  rcases h.connection?_cases with ⟨hcurrent, hnone⟩ | ⟨_, c, -, hsome, hserves⟩
  · simp [hnone, (h.vacant hcurrent).1]
  · simp [hsome, hserves.generation]

/-- A reset that has given the connection up and fails leaves the session closed and without one. -/
theorem of_reset_eq_error (h : s.Coherent) (hinstalled : s.connection?.isSome = true)
    {closing : Except Failure Unit} {answers : TransportAnswers} {cause : Failure}
    (herror : (s.reset closing answers).1 = .error cause) :
    (s.reset closing answers).2.state = .closed ∧
      (s.reset closing answers).2.connection? = none := by
  rcases h.connection?_cases with ⟨-, hnone⟩ | ⟨place, c, hcurrent, -, -⟩
  · simp [hnone] at hinstalled
  · have hshutdown : ¬s.shutdown = true := by
      intro hshutdown
      rw [h.shutdown hshutdown] at hcurrent
      cases hcurrent
    rw [Session.reset, if_neg hshutdown] at herror ⊢
    rcases (s.giveUp closing).rebuild_cases answers with hrebuild | hrebuild
    · rw [hrebuild] at herror ⊢
      obtain ⟨hstate, hnone⟩ := of_build_eq_error herror
      rw [connection?, hstate, hnone, current_giveUp, giveUp_of_some hcurrent, setState_eq]
      exact ⟨rfl, rfl⟩
    · rw [hrebuild] at herror
      cases herror

end Coherent

/-- State and tracks agree after whatever happened to a session: media passes exactly while a viewer
is connected, for which there has to be a connection, and the reports that count are those of the
installed connection.  An attempt to open that fails changes no state; a reset that fails after it
has given the connection up leaves the session closed and without tracks. -/
theorem gating (config : SessionConfig) (journal : List StreamEvent)
    (operations : List Operation) :
    let s := (new config journal).run operations
    (s.isVideoOpen = true ↔ s.state = .connected) ∧
      (∀ c ∈ s.connection?, config.audio = true →
        c.audio.isSome = true ∧ (c.isAudioOpen = true ↔ c.isVideoOpen = true)) ∧
      (s.state = .negotiating ∨ s.state = .connected → s.connection?.isSome = true) ∧
      s.liveGeneration = (s.connection?.map (·.generation)).getD 0 ∧
      (∀ answers cause, (s.establish answers).1 = .error cause →
        (s.establish answers).2.state = s.state) ∧
      (∀ closing answers cause, s.connection?.isSome = true →
        (s.reset closing answers).1 = .error cause →
        (s.reset closing answers).2.state = .closed ∧
          (s.reset closing answers).2.connection? = none) := by
  intro s
  have hs : s.Coherent := (coherent_new config journal).run operations
  have hconfig : s.config = config := config_run (new config journal) operations
  refine ⟨hs.isVideoOpen_iff, ?_, hs.isSome_connection?, hs.liveGeneration_eq, ?_, ?_⟩
  · intro c hc haudio
    exact hs.audio_of_connection? (hconfig ▸ haudio) hc
  · intro answers cause
    exact state_of_establish_eq_error
  · intro closing answers cause hinstalled
    exact hs.of_reset_eq_error hinstalled

/-- A viewer connects to the second generation while the first one still reports; a reset without an
offer then fails. -/
theorem gating_second_generation :
    let s := (new ⟨.h264, [], true, 100⟩ []).run
      [.establish (.working none), .reset (.ok ()) (.working none),
        .report 1 (.stateChanged .connected), .report 0 (.stateChanged .failed)]
    let answers := { TransportAnswers.working none with createOffer := .error .noVideoTrack }
    s.state = .connected ∧ s.isVideoOpen = true ∧ s.liveGeneration = 2 ∧
      (s.reset (.ok ()) answers).2.state = .closed := by
  intro s answers
  obtain ⟨hvideo, -, -, -, -, hreset⟩ := gating ⟨.h264, [], true, 100⟩ []
    [.establish (.working none), .reset (.ok ()) (.working none),
      .report 1 (.stateChanged .connected), .report 0 (.stateChanged .failed)]
  exact ⟨rfl, hvideo.mpr rfl, rfl, (hreset (.ok ()) answers _ rfl rfl).1⟩

end LiveCamera.Session
