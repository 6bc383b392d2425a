import LiveCamera.Proofs.Event.Broadcasts
import LiveCamera.Proofs.Session.Gating
import Mathlib.Data.List.Chain

/-!
# What a session tells about itself

A session publishes every change of its state, and every reset that succeeds with the generation
that it has built.  `Tells` says what is published while a session becomes another one; there is
such a statement for each operation.  Someone who hears all of it knows the state and the resets in
their order (`heard_replays`).
-/

namespace LiveCamera

namespace SessionState

theorem name_injective : Function.Injective name := by
  intro first second h
  cases first <;> cases second <;> first | rfl | exact absurd h (by decide)

/-- States that lead from one state to another, each of them different from the one before. -/
inductive Leads : SessionState → List SessionState → SessionState → Prop
  | stay (state : SessionState) : Leads state [] state
  | change {first second last : SessionState} {rest : List SessionState} (hne : first ≠ second)
      (hrest : Leads second rest last) : Leads first (second :: rest) last

namespace Leads

variable {first last : SessionState} {states : List SessionState}

theorem trans (h : Leads first states last) {later : List SessionState} {final : SessionState}
    (hlater : Leads last later final) : Leads first (states ++ later) final := by
  induction h with
  | stay => exact hlater
  | change hne _ ih => exact .change hne (ih hlater)

theorem isChain (h : Leads first states last) : (first :: states).IsChain (· ≠ ·) := by
  induction h with
  | stay => exact .singleton _
  | change hne _ ih => exact .cons_cons hne ih

theorem getLast? (h : Leads first states last) : states.getLast?.getD first = last := by
  induction h with
  | stay => rfl
  | change _ _ ih => rw [List.getLast?_cons, ← ih, Option.getD_some]

end Leads

end SessionState

namespace Session

/-! ## Events -/

/-- The event that says that a session has come to a state. -/
def changed (state : SessionState) : StreamEvent := .sessionStateChanged state.name

/-- The states that events tell of. -/
def changes (events : List StreamEvent) : List String :=
  events.filterMap fun
    | .sessionStateChanged state => some state
    | _ => none

/-- The generations that events tell to be built by a reset. -/
def resets (events : List StreamEvent) : List Nat :=
  events.filterMap fun
    | .sessionReset generation => some generation
    | _ => none

theorem changes_append (events later : List StreamEvent) :
    changes (events ++ later) = changes events ++ changes later :=
  List.filterMap_append

theorem resets_append (events later : List StreamEvent) :
    resets (events ++ later) = resets events ++ resets later :=
  List.filterMap_append

@[simp]
theorem changes_map_changed (states : List SessionState) :
    changes (states.map changed) = states.map (·.name) := by
  induction states with
  | nil => rfl
  | cons state states ih => simpa [changes, changed] using ih

@[simp]
theorem resets_map_changed (states : List SessionState) : resets (states.map changed) = [] := by
  induction states with
  | nil => rfl
  | cons state states ih => simp [resets, changed]

/-! ## What the operations publish -/

/-- What a session publishes while it becomes another one: states that lead from the one to the
other.  Generations only grow. -/
structure Tells (s t : Session) (states : List SessionState) : Prop where
  journal : t.journal = s.journal ++ states.map changed
  leads : s.state.Leads states t.state
  generation : s.generation ≤ t.generation

/-- The states that an event tells of if a session comes to a state. -/
def turns (s : Session) (state : SessionState) : List SessionState :=
  if s.state = state then [] else [state]

variable {s t : Session} {states : List SessionState}

theorem Tells.trans (h : Tells s t states) {u : Session} {later : List SessionState}
    (hlater : Tells t u later) : Tells s u (states ++ later) where
  journal := by rw [hlater.journal, h.journal, List.append_assoc, ← List.map_append]
  leads := h.leads.trans hlater.leads
  generation := Nat.le_trans h.generation hlater.generation

/-- Nothing is published where neither the state nor the journal is touched. -/
theorem tells_nothing (hjournal : t.journal = s.journal) (hstate : t.state = s.state)
    (hgeneration : s.generation ≤ t.generation) : Tells s t [] where
  journal := by rw [hjournal, List.map_nil, List.append_nil]
  leads := hstate ▸ .stay s.state
  generation := hgeneration

theorem tells_setState (s : Session) (state : SessionState) :
    Tells s (s.setState state) (s.turns state) := by
  rw [setState_eq]
  unfold turns
  split_ifs with hsame
  · exact ⟨rfl, hsame ▸ .stay s.state, (Nat.le_refl _)⟩
  · exact ⟨rfl, .change hsame (.stay state), (Nat.le_refl _)⟩

/-- A session that gives its connection up tells that it is closed. -/
theorem tells_vacate (s : Session) (shutdown : Bool) (answer : Except Failure Unit) :
    Tells s ((({ s with shutdown } : Session).retire answer).setState .closed)
      (s.turns .closed) := by
  have hretired : Tells s (({ s with shutdown } : Session).retire answer) [] := by
    unfold retire
    split <;> exact tells_nothing rfl rfl (Nat.le_refl _)
  have hsame : (({ s with shutdown } : Session).retire answer).state = s.state := by
    unfold retire
    split <;> rfl
  have hclosed := hretired.trans (tells_setState _ .closed)
  rwa [turns, hsame, ← turns] at hclosed

theorem tells_giveUp (s : Session) (answer : Except Failure Unit) :
    Tells s (s.giveUp answer) (if s.current.isSome then s.turns .closed else []) := by
  rcases Option.eq_none_or_eq_some s.current with hcurrent | ⟨place, hcurrent⟩
  · rw [giveUp_of_none hcurrent, hcurrent]
    exact tells_nothing rfl rfl (Nat.le_refl _)
  · rw [giveUp_of_some hcurrent, hcurrent]
    exact s.tells_vacate s.shutdown answer

/-- A build that fails publishes nothing; one that succeeds tells that the session waits for a
viewer. -/
theorem tells_build (s : Session) (answers : TransportAnswers) :
    (∃ cause, (s.build answers).1 = .error cause ∧ Tells s (s.build answers).2 []) ∨
      ∃ c, (s.build answers).1 = .ok () ∧
        Tells s (s.build answers).2 (s.turns .negotiating) ∧
        (s.build answers).2.connection? = some c ∧ c.generation = s.generation + 1 ∧
        (s.build answers).2.generation = s.generation + 1 := by
  rcases s.build_cases answers with ⟨cause, rejected, hbuild, -⟩ | ⟨c, hbuild, hgeneration, -⟩ <;>
    rw [hbuild]
  · exact .inl ⟨cause, rfl, tells_nothing rfl rfl (Nat.le_succ _)⟩
  · refine .inr ⟨c, rfl, ?_, ?_, hgeneration, ?_⟩
    · have hinstalled : Tells s ({ s with
          generation := s.generation + 1
          connections := s.connections ++ [c]
          liveGeneration := s.generation + 1
          current := some s.connections.length } : Session) [] :=
        tells_nothing rfl rfl (Nat.le_succ _)
      exact hinstalled.trans (tells_setState _ .negotiating)
    · simp [setState_eq, connection?]
    · rw [setState_eq]

theorem exists_tells_establish (s : Session) (answers : TransportAnswers) :
    ∃ states, Tells s (s.establish answers).2 states := by
  rcases Option.eq_none_or_eq_some s.current with hcurrent | ⟨place, hcurrent⟩
  · rw [establish_of_none hcurrent]
    have hreopened : Tells s { s with shutdown := false } [] :=
      tells_nothing rfl rfl (Nat.le_refl _)
    rcases ({ s with shutdown := false } : Session).tells_build answers with
      ⟨_, -, hbuild⟩ | ⟨_, -, hbuild, -⟩
    · exact ⟨_, hreopened.trans hbuild⟩
    · exact ⟨_, hreopened.trans hbuild⟩
  · rw [establish_of_some hcurrent]
    exact ⟨[], tells_nothing rfl rfl (Nat.le_refl _)⟩

theorem exists_tells_report (s : Session) (place : Nat) (event : TransportEvent) :
    ∃ states, Tells s (s.report place event) states := by
  rcases s.report_cases place event with hreport | ⟨wanted, state, hreport, -, -⟩ <;> rw [hreport]
  · exact ⟨[], tells_nothing rfl rfl (Nat.le_refl _)⟩
  · have htracks : Tells s (s.modify place (·.setTracksOpen wanted)) [] :=
      tells_nothing rfl rfl (Nat.le_refl _)
    exact ⟨_, htracks.trans (tells_setState _ state)⟩

/-- A reset is announced if it succeeds, after the changes of the state that it makes, with the
generation of the connection that it has installed. -/
theorem Coherent.tells_reset (h : s.Coherent) (closing : Except Failure Unit)
    (answers : TransportAnswers) :
    (∃ cause states, (s.reset closing answers).1 = .error cause ∧
        Tells s (s.reset closing answers).2 states) ∨
      ∃ t states c, s.reset closing answers = (.ok (), t.publish (.sessionReset c.generation)) ∧
        Tells s t states ∧ states.getLast? = some .negotiating ∧ t.connection? = some c ∧
        c.generation = s.generation + 1 ∧ t.generation = s.generation + 1 := by
  by_cases hshutdown : s.shutdown = true
  · rw [Session.reset, if_pos hshutdown]
    exact .inl ⟨_, [], rfl, tells_nothing rfl rfl (Nat.le_refl _)⟩
  rw [Session.reset, if_neg hshutdown, Session.rebuild]
  have hgiveUp := s.tells_giveUp closing
  rcases (s.giveUp closing).tells_build answers with
    ⟨cause, hresult, hbuild⟩ | ⟨c, hresult, hbuild, hconnection, hnumber, hgeneration⟩
  · have herror : (s.giveUp closing).build answers =
        (.error cause, ((s.giveUp closing).build answers).2) := Prod.ext hresult rfl
    rw [herror]
    exact .inl ⟨cause, _, rfl, hgiveUp.trans hbuild⟩
  · have hok : (s.giveUp closing).build answers =
        (.ok (), ((s.giveUp closing).build answers).2) := Prod.ext hresult rfl
    have hwaits : (s.giveUp closing).state ≠ .negotiating :=
      ((h.giveUp closing).vacant (s.current_giveUp closing)).2.1
    rw [turns, if_neg hwaits] at hbuild
    rw [generation_giveUp] at hnumber hgeneration
    refine .inr ⟨((s.giveUp closing).build answers).2, _, c, ?_, hgiveUp.trans hbuild, ?_,
      hconnection, hnumber, hgeneration⟩
    · rw [hok]
      dsimp only
      rw [hgeneration, hnumber]
    · exact List.getLast?_concat

/-- Whatever is done to a session but a reset only changes its state. -/
theorem exists_tells_step (s : Session) {operation : Operation}
    (hoperation : ∀ closing answers, operation ≠ .reset closing answers) :
    ∃ states, Tells s (s.step operation) states := by
  cases operation with
  | establish answers => exact s.exists_tells_establish answers
  | reset closing answers => exact absurd rfl (hoperation closing answers)
  | close closing => exact ⟨_, s.tells_vacate true closing⟩
  | report place event => exact s.exists_tells_report place event

/-- An operation changes the state, and a reset that succeeds is announced after that. -/
theorem Coherent.step_cases (h : s.Coherent) (operation : Operation) :
    (∃ states, Tells s (s.step operation) states) ∨
      ∃ (t : Session) (states : List SessionState) (generation : Nat),
        s.step operation = t.publish (.sessionReset generation) ∧ Tells s t states ∧
        generation = s.generation + 1 ∧ t.generation = s.generation + 1 := by
  by_cases hreset : ∃ closing answers, operation = .reset closing answers
  · obtain ⟨closing, answers, rfl⟩ := hreset
    rcases h.tells_reset closing answers with
      ⟨_, states, -, ht⟩ | ⟨t, states, c, hresult, ht, -, -, hnumber, hgeneration⟩
    · exact .inl ⟨states, ht⟩
    · exact .inr ⟨t, states, c.generation, congrArg Prod.snd hresult, ht, hnumber, hgeneration⟩
  · apply Or.inl
    apply s.exists_tells_step
    intro closing answers hoperation
    exact hreset ⟨closing, answers, hoperation⟩

/-! ## Journals -/

/-- What the journal of a session tells: the state, by the changes that lead to it, and the builds
of resets in their order. -/
structure Replays (s : Session) : Prop where
  states : ∃ states, changes s.journal = states.map (·.name) ∧
    SessionState.idle.Leads states s.state
  rising : (resets s.journal).Pairwise (· < ·)
  built : ∀ generation ∈ resets s.journal, generation ≤ s.generation

namespace Replays

theorem tells (h : s.Replays) (ht : Tells s t states) : t.Replays where
  states := by
    obtain ⟨earlier, hchanges, hleads⟩ := h.states
    refine ⟨earlier ++ states, ?_, hleads.trans ht.leads⟩
    rw [ht.journal, changes_append, hchanges, changes_map_changed, List.map_append]
  rising := by
    rw [ht.journal, resets_append, resets_map_changed, List.append_nil]
    exact h.rising
  built := by
    rw [ht.journal, resets_append, resets_map_changed, List.append_nil]
    intro generation hgeneration
    exact Nat.le_trans (h.built generation hgeneration) ht.generation

/-- The generation that a reset has built is later than all that were built before. -/
theorem announce (h : s.Replays) (ht : Tells s t states) {generation : Nat}
    (hnew : s.generation < generation) (hlast : t.generation = generation) :
    (t.publish (.sessionReset generation)).Replays where
  states := by
    obtain ⟨earlier, hchanges, hleads⟩ := (h.tells ht).states
    refine ⟨earlier, ?_, hleads⟩
    calc
      _ = changes t.journal ++ [] := changes_append _ _
      _ = _ := by rw [hchanges, List.append_nil]
  rising := by
    have hresets : resets (t.publish (.sessionReset generation)).journal =
        resets s.journal ++ [generation] := by
      rw [publish, resets_append, ht.journal, resets_append, resets_map_changed, List.append_nil]
      rfl
    rw [hresets, List.pairwise_append]
    refine ⟨h.rising, List.pairwise_singleton _ _, ?_⟩
    intro earlier hearlier last hmem
    rw [List.mem_singleton.mp hmem]
    exact Nat.lt_of_le_of_lt (h.built earlier hearlier) hnew
  built := by
    have hresets : resets (t.publish (.sessionReset generation)).journal =
        resets t.journal ++ [generation] := resets_append _ _
    rw [hresets, List.forall_mem_append]
    refine ⟨(h.tells ht).built, ?_⟩
    intro last hmem
    rw [List.mem_singleton.mp hmem]
    exact Nat.le_of_eq hlast.symm

theorem step (h : s.Replays) (hs : s.Coherent) (operation : Operation) :
    (s.step operation).Replays := by
  rcases hs.step_cases operation with
    ⟨states, ht⟩ | ⟨t, states, generation, hstep, ht, hnumber, hgeneration⟩
  · exact h.tells ht
  · rw [hstep]
    exact h.announce ht (by omega) (by omega)

end Replays

/-- A journal only grows. -/
theorem Coherent.exists_journal_step (h : s.Coherent) (operation : Operation) :
    ∃ events, (s.step operation).journal = s.journal ++ events := by
  rcases h.step_cases operation with ⟨states, ht⟩ | ⟨t, states, generation, hstep, ht, -⟩
  · exact ⟨states.map changed, ht.journal⟩
  · refine ⟨states.map changed ++ [.sessionReset generation], ?_⟩
    calc
      (s.step operation).journal = t.journal ++ [.sessionReset generation] := by rw [hstep]; rfl
      _ = s.journal ++ (states.map changed ++ [.sessionReset generation]) := by
        rw [ht.journal, List.append_assoc]

/-! ## Listening -/

/-- A session whose events go to a bus, and someone who has subscribed before the first one. -/
structure Followed where
  session : Session
  bus : EventBus
  /-- What the subscriber has read. -/
  heard : List StreamEvent
  /-- The number of events that were gone when the subscriber came to read them. -/
  missed : Nat

namespace Followed

/-- Something happens to the session, or the subscriber reads everything there is. -/
inductive Moment
  | operation (operation : Operation)
  | read

def start (config : SessionConfig) : Followed :=
  ⟨.new config [], EventBus.new.subscribe.2, [], 0⟩

def operate (x : Followed) (operation : Operation) : Followed :=
  let session := x.session.step operation
  { x with
    session
    bus := x.bus.sendAll (session.journal.drop x.session.journal.length) }

def read (x : Followed) : Followed :=
  let reading := x.bus.drain 0
  { x with
    bus := reading.2
    heard := x.heard ++ reading.1.messages
    missed := x.missed + reading.1.missed }

def take (x : Followed) : Moment → Followed
  | .operation operation => x.operate operation
  | .read => x.read

def takeAll (x : Followed) (moments : List Moment) : Followed := moments.foldl take x

theorem takeAll_concat (x : Followed) (moments : List Moment) (last : Moment) :
    x.takeAll (moments ++ [last]) = (x.takeAll moments).take last :=
  List.foldl_append

/-- What can be relied on between any two moments.  What was read and what is sent since then are
the journal, as long as the subscriber has missed nothing. -/
structure Sound (x : Followed) : Prop where
  coherent : x.session.Coherent
  replays : x.session.Replays
  heard : ∃ (caughtUp : EventBus) (unread : List StreamEvent),
    caughtUp.Sound ∧ caughtUp.UpToDate 0 ∧ x.bus = caughtUp.sendAll unread ∧
      (x.missed = 0 → x.session.journal = x.heard ++ unread)

theorem sound_start (config : SessionConfig) : (start config).Sound where
  coherent := coherent_new config []
  replays :=
    { states := ⟨[], rfl, .stay .idle⟩
      rising := .nil
      built := by simp [start, new, resets] }
  heard := ⟨EventBus.new.subscribe.2, [], Broadcast.sound_new eventCapacity, rfl, rfl, fun _ ↦ rfl⟩

variable {x : Followed}

theorem Sound.operate (h : x.Sound) (operation : Operation) : (x.operate operation).Sound where
  coherent := h.coherent.step operation
  replays := h.replays.step h.coherent operation
  heard := by
    obtain ⟨caughtUp, unread, hsound, hupToDate, hbus, hheard⟩ := h.heard
    obtain ⟨events, hjournal⟩ := h.coherent.exists_journal_step operation
    refine ⟨caughtUp, unread ++ events, hsound, hupToDate, ?_, ?_⟩
    · rw [Followed.operate, hjournal, List.drop_left, hbus, Broadcast.sendAll_append]
    · intro hmissed
      calc
        _ = x.session.journal ++ events := hjournal
        _ = _ := by rw [hheard hmissed, List.append_assoc]; rfl

/-- A subscriber who has read everything and missed nothing has heard the journal. -/
theorem Sound.heard_read (h : x.Sound) (hmissed : x.read.missed = 0) :
    x.read.heard = x.session.journal := by
  obtain ⟨caughtUp, unread, hsound, hupToDate, hbus, hheard⟩ := h.heard
  obtain ⟨hbefore, hreading⟩ := Nat.add_eq_zero_iff.mp hmissed
  rw [hbus] at hreading
  calc
    x.heard ++ (x.bus.drain 0).1.messages = x.heard ++ unread := by
      rw [hbus, hsound.messages_drain_of_missed hupToDate hreading]
    _ = x.session.journal := (hheard hbefore).symm

theorem Sound.read (h : x.Sound) : x.read.Sound where
  coherent := h.coherent
  replays := h.replays
  heard := by
    obtain ⟨caughtUp, unread, hsound, hupToDate, hbus, -⟩ := h.heard
    have hposition : x.bus.receivers[0]? = some (some caughtUp.sent) := by
      rw [hbus, Broadcast.receivers_sendAll]
      exact hupToDate
    refine ⟨(x.bus.drain 0).2, [], ?_, Broadcast.upToDate_drain hposition, rfl, ?_⟩
    · rw [hbus]
      exact (hsound.sendAll unread).drain 0
    · intro hmissed
      rw [List.append_nil]
      exact (h.heard_read hmissed).symm

theorem Sound.takeAll (h : x.Sound) (moments : List Moment) : (x.takeAll moments).Sound := by
  induction moments generalizing x with
  | nil => exact h
  | cons moment moments ih =>
    cases moment with
    | operation operation => exact ih (h.operate operation)
    | read => exact ih h.read

/-- What a subscriber has heard who reads after any run and never missed an event.  No two changes
of the state in a row tell the same state, and the last one tells the state the session is in.  A
reset that succeeds is announced once, behind its changes of the state, with the generation of the
connection that it has installed; these generations rise.  Nothing else announces a reset, in
particular not one that fails. -/
theorem heard_replays (config : SessionConfig) (moments : List Moment)
    (hmissed : ((start config).takeAll (moments ++ [.read])).missed = 0) :
    let x := (start config).takeAll (moments ++ [.read])
    let s := x.session
    x.heard = s.journal ∧
      (changes x.heard).IsChain (· ≠ ·) ∧
      (changes x.heard).getLast?.getD SessionState.idle.name = s.state.name ∧
      (resets x.heard).Pairwise (· < ·) ∧
      (∀ closing answers,
        (∃ cause, ∃ states : List SessionState, (s.reset closing answers).1 = .error cause ∧
          (s.reset closing answers).2.journal = s.journal ++ states.map changed) ∨
        ∃ (states : List SessionState) (c : Connection), (s.reset closing answers).1 = .ok () ∧
          (s.reset closing answers).2.connection? = some c ∧ s.generation < c.generation ∧
          (s.reset closing answers).2.journal =
            s.journal ++ states.map changed ++ [.sessionReset c.generation] ∧
          states.getLast? = some .negotiating) ∧
      ∀ operation : Operation, (∀ closing answers, operation ≠ .reset closing answers) →
        ∃ states : List SessionState,
          (s.step operation).journal = s.journal ++ states.map changed := by
  have hbefore : ((start config).takeAll moments).Sound := (sound_start config).takeAll moments
  rw [takeAll_concat] at hmissed ⊢
  intro x s
  have hs : x.Sound := hbefore.read
  have hheard : x.heard = s.journal := hbefore.heard_read hmissed
  obtain ⟨states, hchanges, hleads⟩ := hs.replays.states
  refine ⟨hheard, ?_, ?_, hheard ▸ hs.replays.rising, ?_, ?_⟩
  · rw [hheard, hchanges, List.isChain_map]
    exact hleads.isChain.tail.imp fun _ _ hne ↦ SessionState.name_injective.ne hne
  · rw [hheard, hchanges, List.getLast?_map, Option.getD_map, hleads.getLast?]
  · intro closing answers
    rcases hs.coherent.tells_reset closing answers with
      ⟨cause, states, hresult, ht⟩ | ⟨t, states, c, hresult, ht, hlast, hconnection, hnumber, -⟩
    · exact .inl ⟨cause, states, hresult, ht.journal⟩
    · refine .inr ⟨states, c, ?_⟩
      rw [hresult]
      refine ⟨rfl, hconnection, hnumber ▸ Nat.lt_succ_self _, ?_, hlast⟩
      rw [← ht.journal]
      rfl
  · intro operation hoperation
    obtain ⟨states, ht⟩ := s.exists_tells_step hoperation
    exact ⟨states, ht.journal⟩

/-- A viewer connects to the second generation; a reset without an offer then fails, and the next
one succeeds.  The subscriber reads twice. -/
theorem heard_replays_third_generation :
    let broken := { TransportAnswers.working none with createOffer := .error .noVideoTrack }
    let moments : List Moment :=
      [.operation (.establish (.working none)), .operation (.reset (.ok ()) (.working none)), .read,
        .operation (.report 1 (.stateChanged .connected)), .operation (.reset (.ok ()) broken),
        .operation (.reset (.ok ()) (.working none))]
    let x := (start ⟨.h264, [], true, 100⟩).takeAll (moments ++ [.read])
    x.missed = 0 ∧
      changes x.heard = ["negotiating", "closed", "negotiating", "connected", "closed",
        "negotiating"] ∧
      resets x.heard = [2, 4] ∧ x.heard = x.session.journal := by
  intro broken moments x
  have hmissed : x.missed = 0 := by decide +kernel
  have hheard := (heard_replays ⟨.h264, [], true, 100⟩ moments hmissed).1
  exact ⟨hmissed, by decide +kernel, by decide +kernel, hheard⟩

end Followed

end Session

end LiveCamera
