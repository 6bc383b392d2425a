import LiveCamera.Proofs.Session.Course
import Mathlib.Data.List.Range

/-!
# What becomes of connections

Every connection that the transport makes is closed once: when it cannot be set up, when a reset
gives it up, or when the session is closed.  `Sound` says, for every moment of a course, that only
one connection may be open and which one it is; every move keeps it.  `each_closed_once` is what it
comes to after any moves.
-/

namespace LiveCamera

namespace Connection

variable (c : Connection)

@[simp]
theorem generation_use (use : TrackUse) : (c.use use).generation = c.generation := by
  cases use with
  | writeVideo data timestamp answer =>
    unfold Connection.use writeVideo
    dsimp only
    split <;> rfl
  | writeAudio packet answer =>
    unfold Connection.use writeAudio
    dsimp only
    split <;> rfl
  | _ => rfl

@[simp]
theorem closes_use (use : TrackUse) : (c.use use).closes = c.closes := by
  cases use with
  | writeVideo data timestamp answer =>
    unfold Connection.use writeVideo
    dsimp only
    split <;> rfl
  | writeAudio packet answer =>
    unfold Connection.use writeAudio
    dsimp only
    split <;> rfl
  | _ => rfl

@[simp]
theorem closes_setUp (config : SessionConfig) (answers : TransportAnswers) :
    (c.setUp config answers).2.closes = c.closes := by
  unfold setUp
  repeat' split
  all_goals rfl

end Connection

namespace Session

/-- The generation of every connection, and how often it was closed. -/
def ledger (s : Session) : List (Nat × Nat) :=
  s.connections.map fun c ↦ (c.generation, c.closes.length)

theorem getElem?_ledger_of_connection {s : Session} {place : Nat} {c : Connection}
    (h : s.connections[place]? = some c) :
    s.ledger[place]? = some (c.generation, c.closes.length) := by
  rw [ledger, List.getElem?_map, h]
  rfl

theorem exists_connection_of_ledger {s : Session} {place : Nat} {entry : Nat × Nat}
    (h : s.ledger[place]? = some entry) :
    ∃ c, s.connections[place]? = some c ∧ entry = (c.generation, c.closes.length) := by
  rw [ledger, List.getElem?_map] at h
  obtain ⟨c, hc, hentry⟩ := Option.map_eq_some_iff.mp h
  exact ⟨c, hc, hentry.symm⟩

/-- A ledger in which the entry at one place says that the connection was closed once more. -/
def closing (entries : List (Nat × Nat)) (place : Nat) : List (Nat × Nat) :=
  entries.modify place fun entry ↦ (entry.1, entry.2 + 1)

theorem ledger_modify (s : Session) (place : Nat) {f : Connection → Connection}
    (hgeneration : ∀ c, (f c).generation = c.generation)
    (hcloses : ∀ c, (f c).closes = c.closes) : (s.modify place f).ledger = s.ledger := by
  apply List.ext_getElem?
  intro other
  simp only [ledger, modify, List.getElem?_map, List.getElem?_modify]
  cases s.connections[other]? with
  | none => rfl
  | some c =>
    by_cases hplace : place = other
    · simp [hplace, hgeneration, hcloses]
    · simp [hplace]

theorem ledger_modify_closing (s : Session) (place : Nat) {f : Connection → Connection}
    (hgeneration : ∀ c, (f c).generation = c.generation)
    (hcloses : ∀ c, (f c).closes.length = c.closes.length + 1) :
    (s.modify place f).ledger = closing s.ledger place := by
  apply List.ext_getElem?
  intro other
  simp only [ledger, closing, modify, List.getElem?_map, List.getElem?_modify]
  cases s.connections[other]? with
  | none => rfl
  | some c =>
    by_cases hplace : place = other
    · simp [hplace, hgeneration, hcloses]
    · simp [hplace]

theorem map_fst_closing (entries : List (Nat × Nat)) (place : Nat) :
    (closing entries place).map Prod.fst = entries.map Prod.fst := by
  apply List.ext_getElem?
  intro other
  simp only [closing, List.getElem?_map, List.getElem?_modify]
  cases entries[other]? with
  | none => rfl
  | some entry => by_cases hplace : place = other <;> simp [hplace]

/-! ## Sessions that differ in state, tracks and events only -/

/-- What is the same in a session whose connections stay as they are. -/
structure Same (s t : Session) : Prop where
  current : t.current = s.current
  liveGeneration : t.liveGeneration = s.liveGeneration
  generation : t.generation = s.generation
  shutdown : t.shutdown = s.shutdown
  ledger : t.ledger = s.ledger

namespace Same

variable {s t u : Session}

theorem refl (s : Session) : s.Same s := ⟨rfl, rfl, rfl, rfl, rfl⟩

theorem trans (h : s.Same t) (h' : t.Same u) : s.Same u where
  current := h'.current.trans h.current
  liveGeneration := h'.liveGeneration.trans h.liveGeneration
  generation := h'.generation.trans h.generation
  shutdown := h'.shutdown.trans h.shutdown
  ledger := h'.ledger.trans h.ledger

end Same

theorem same_publish (s : Session) (event : StreamEvent) : s.Same (s.publish event) :=
  ⟨rfl, rfl, rfl, rfl, rfl⟩

theorem same_setState (s : Session) (state : SessionState) : s.Same (s.setState state) := by
  rw [setState_eq]
  exact ⟨rfl, rfl, rfl, rfl, rfl⟩

theorem same_modify (s : Session) (place : Nat) {f : Connection → Connection}
    (hgeneration : ∀ c, (f c).generation = c.generation)
    (hcloses : ∀ c, (f c).closes = c.closes) : s.Same (s.modify place f) :=
  ⟨rfl, rfl, rfl, rfl, s.ledger_modify place hgeneration hcloses⟩

/-- A report opens and shuts tracks and changes the state, and nothing else. -/
theorem same_report (s : Session) (place : Nat) (event : TransportEvent) :
    s.Same (s.report place event) := by
  rcases s.report_cases place event with hreport | ⟨wanted, state, hreport, -, -⟩ <;> rw [hreport]
  · exact .refl s
  · have htracks : s.Same (s.modify place (·.setTracksOpen wanted)) :=
      s.same_modify place (fun _ ↦ rfl) fun _ ↦ rfl
    exact htracks.trans (same_setState _ state)

/-- The builds that the transport has not answered yet. -/
def Progress.asked : Progress → Nat
  | connecting _ => 1
  | _ => 0

namespace Course

/-! ## Which connection may be open -/

/-- The place of the connection that was not closed: the one that is built, or the installed one. -/
def open? (x : Course) : Option Nat :=
  match x.progress with
  | .settingUp _ place => some place
  | .rejecting place _ => some place
  | _ => x.session.current

/-- Whether an entry says that exactly the open connection was not closed, and every other one
once. -/
def Balanced (entries : List (Nat × Nat)) (place? : Option Nat) : Prop :=
  ∀ (place : Nat) (entry : Nat × Nat), entries[place]? = some entry →
    entry.2 = if place? = some place then 0 else 1

/-- What a course can be relied on for between any two moves. -/
structure Sound (x : Course) : Prop where
  vacant : x.progress ≠ .free → x.session.current = none ∧ x.session.shutdown = false
  shutdown : x.session.shutdown = true → x.session.current = none
  silent : x.session.current = none → x.session.liveGeneration = 0
  live : ∀ place, x.session.current = some place →
    ∃ closes, x.session.ledger[place]? = some (x.session.liveGeneration, closes)
  building : ∀ resetting place, x.progress = .settingUp resetting place →
    ∃ closes, x.session.ledger[place]? = some (x.session.generation, closes)
  /-- Every generation was attempted once; the answers come in the same order, and some of them are
  failures. -/
  attempts : x.attempts = List.range' 1 x.session.generation
  numbered : ∃ answered, answered + x.progress.asked = x.session.generation ∧
    (x.session.ledger.map Prod.fst).Sublist (List.range' 1 answered)
  balanced : Balanced x.session.ledger x.open?

theorem sound_start (config : SessionConfig) (journal : List StreamEvent) :
    (start config journal).Sound where
  vacant := fun hbusy ↦ absurd rfl hbusy
  shutdown := fun _ ↦ rfl
  silent := fun _ ↦ rfl
  live := fun _ hplace ↦ nomatch hplace
  building := fun _ _ hplace ↦ nomatch hplace
  attempts := rfl
  numbered := ⟨0, rfl, List.Sublist.slnil⟩
  balanced := fun _ _ hentry ↦ nomatch hentry

variable {x : Course}

/-- What a session is like that has no connection, while every one that it had was closed. -/
structure Vacant (x : Course) (session : Session) : Prop where
  current : session.current = none
  liveGeneration : session.liveGeneration = 0
  generation : session.generation = x.session.generation
  numbers : session.ledger.map Prod.fst = x.session.ledger.map Prod.fst
  balanced : Balanced session.ledger none

theorem open?_of_free (hfree : x.progress = .free) : x.open? = x.session.current := by
  simp only [open?, hfree]

/-- Once the open connection is closed, every connection was closed once. -/
theorem Balanced.closing {entries : List (Nat × Nat)} {place : Nat}
    (h : Balanced entries (some place)) : Balanced (closing entries place) none := by
  intro other entry hentry
  rw [Session.closing, List.getElem?_modify] at hentry
  obtain ⟨old, hold, rfl⟩ := Option.map_eq_some_iff.mp hentry
  have hcloses := h other old hold
  by_cases hplace : place = other
  · subst hplace
    simpa using hcloses
  · simpa [hplace] using hcloses

/-- A connection that was just made is the one that may be open. -/
theorem Balanced.concat {entries : List (Nat × Nat)} (h : Balanced entries none)
    (generation : Nat) :
    Balanced (entries ++ [(generation, 0)]) (some entries.length) := by
  intro place entry hentry
  rw [List.getElem?_append] at hentry
  split_ifs at hentry with hplace
  · have hcloses := h place entry hentry
    simpa [Nat.ne_of_gt hplace] using hcloses
  · obtain ⟨hlength, hget⟩ := List.getElem?_eq_some_iff.mp hentry
    rw [List.length_singleton] at hlength
    obtain rfl : place = entries.length := by omega
    simp only [Nat.sub_self, List.getElem_cons_zero] at hget
    rw [← hget, if_pos rfl]

namespace Sound

/-- A course whose session differs in nothing that matters. -/
theorem of_same (h : x.Sound) {session : Session} (hsame : x.session.Same session) :
    ({ x with session } : Course).Sound where
  vacant := by
    rw [hsame.current, hsame.shutdown]
    exact h.vacant
  shutdown := by
    rw [hsame.current, hsame.shutdown]
    exact h.shutdown
  silent := by
    rw [hsame.current, hsame.liveGeneration]
    exact h.silent
  live := by
    rw [hsame.current, hsame.liveGeneration, hsame.ledger]
    exact h.live
  building := by
    rw [hsame.generation, hsame.ledger]
    exact h.building
  attempts := hsame.generation ▸ h.attempts
  numbered := by
    rw [hsame.generation, hsame.ledger]
    exact h.numbered
  balanced := by
    have hopen : ({ x with session } : Course).open? = x.open? := by
      simp only [open?, hsame.current]
    rw [hopen, hsame.ledger]
    exact h.balanced

/-- Setting a connection up changes nothing that matters until it is over. -/
theorem of_setUp (h : x.Sound) (place : Nat) (answers : TransportAnswers) :
    ({ x with
      session := x.session.modify place fun c ↦ (c.setUp x.session.config answers).2 } :
        Course).Sound :=
  h.of_same (x.session.same_modify place (fun c ↦ c.generation_setUp x.session.config answers)
    fun c ↦ c.closes_setUp x.session.config answers)

/-- A session whose next generation is to be built. -/
theorem attempt (h : x.Sound) (hcurrent : x.session.current = none)
    (hshutdown : x.session.shutdown = false) (hasked : x.progress.asked = 0)
    (hopen : x.open? = none) (resetting : Bool) : (x.attempt resetting).Sound where
  vacant := fun _ ↦ ⟨hcurrent, hshutdown⟩
  shutdown := fun _ ↦ hcurrent
  silent := h.silent
  live := h.live
  building := fun _ _ hplace ↦ nomatch hplace
  attempts := by
    change x.attempts ++ [x.session.generation + 1] = List.range' 1 (x.session.generation + 1)
    rw [h.attempts, List.range'_concat, Nat.one_mul, Nat.add_comm 1]
  numbered := by
    obtain ⟨answered, hanswered, hsublist⟩ := h.numbered
    refine ⟨answered, ?_, hsublist⟩
    rw [hasked] at hanswered
    exact congrArg (· + 1) hanswered
  balanced := by
    have hopen' : (x.attempt resetting).open? = x.open? := by
      rw [hopen]
      exact hcurrent
    rw [hopen']
    exact h.balanced

/-- The end of a call that leaves the connections as they are. -/
theorem finish (h : x.Sound) (hopen : x.open? = x.session.current)
    (result : Except Failure Unit) : (x.finish x.session result).Sound where
  vacant := fun hbusy ↦ absurd rfl hbusy
  shutdown := h.shutdown
  silent := h.silent
  live := h.live
  building := fun _ _ hplace ↦ nomatch hplace
  attempts := h.attempts
  numbered := by
    obtain ⟨answered, hanswered, hsublist⟩ := h.numbered
    refine ⟨x.session.generation, rfl, hsublist.trans ?_⟩
    apply List.range'_sublist_right.mpr
    omega
  balanced := by
    have hbalanced := h.balanced
    rw [hopen] at hbalanced
    exact hbalanced

/-- A course that goes on without a connection. -/
theorem of_vacant (h : x.Sound) (hasked : x.progress.asked = 0) {session : Session}
    (hvacant : x.Vacant session) {progress : Progress}
    (hprogress : progress = .free ∨ progress = .settling ∧ session.shutdown = false)
    (ended : List (Except Failure Unit)) :
    (⟨session, progress, x.attempts, ended⟩ : Course).Sound where
  vacant := by
    intro hbusy
    rcases hprogress with rfl | ⟨-, hshutdown⟩
    · exact absurd rfl hbusy
    · exact ⟨hvacant.current, hshutdown⟩
  shutdown := fun _ ↦ hvacant.current
  silent := fun _ ↦ hvacant.liveGeneration
  live := fun _ hplace ↦ nomatch hvacant.current.symm.trans hplace
  building := by
    rcases hprogress with rfl | ⟨rfl, -⟩ <;> exact fun _ _ hplace ↦ nomatch hplace
  attempts := hvacant.generation ▸ h.attempts
  numbered := by
    obtain ⟨answered, hanswered, hsublist⟩ := h.numbered
    refine ⟨answered, ?_, hvacant.numbers ▸ hsublist⟩
    rw [hasked] at hanswered
    rw [hvacant.generation, ← hanswered]
    rcases hprogress with rfl | ⟨rfl, -⟩ <;> rfl
  balanced := by
    have hopen : (⟨session, progress, x.attempts, ended⟩ : Course).open? = none := by
      rcases hprogress with rfl | ⟨rfl, -⟩ <;> exact hvacant.current
    rw [hopen]
    exact hvacant.balanced

/-- A connection that is given up is closed, and no other one is. -/
theorem vacant_retire (h : x.Sound) (hfree : x.progress = .free) (shutdown : Bool)
    (answer : Except Failure Unit) :
    x.Vacant ((({ x.session with shutdown } : Session).retire answer).setState .closed) := by
  have hbalanced := h.balanced
  rw [open?_of_free hfree] at hbalanced
  rcases Option.eq_none_or_eq_some x.session.current with hcurrent | ⟨place, hcurrent⟩
  · rw [hcurrent] at hbalanced
    rw [vacate_of_none hcurrent, setState_eq]
    exact ⟨hcurrent, h.silent hcurrent, rfl, rfl, hbalanced⟩
  · have hledger : (({ x.session with shutdown, current := none, liveGeneration := 0 } :
        Session).modify place (·.retired answer)).ledger = closing x.session.ledger place :=
      ledger_modify_closing _ place (fun _ ↦ rfl) fun c ↦ by
        simp [Connection.retired, Connection.closed]
    rw [hcurrent] at hbalanced
    rw [vacate_of_some hcurrent, setState_eq]
    refine ⟨rfl, rfl, rfl, ?_, ?_⟩
    · exact (congrArg (List.map Prod.fst) hledger).trans (map_fst_closing _ _)
    · exact hledger ▸ hbalanced.closing

theorem reopen (h : x.Sound) (hfree : x.progress = .free) : x.reopen.Sound where
  vacant := fun hbusy ↦ absurd hfree hbusy
  shutdown := fun hshutdown ↦ nomatch hshutdown
  silent := h.silent
  live := h.live
  building := h.building
  attempts := h.attempts
  numbered := h.numbered
  balanced := h.balanced

/-- The transport makes a connection of the newest generation. -/
theorem connect (h : x.Sound) {resetting : Bool}
    (hconnecting : x.progress = .connecting resetting) :
    (x.connect resetting (.ok ())).Sound := by
  obtain ⟨hcurrent, hshutdown⟩ := h.vacant (by simp [hconnecting])
  have hledger : ({ x.session with
      connections := x.session.connections ++ [.bare x.session.generation] } : Session).ledger =
        x.session.ledger ++ [(x.session.generation, 0)] := by
    simp [ledger, Connection.bare]
  have hlength : x.session.connections.length = x.session.ledger.length := by
    simp [ledger]
  obtain ⟨answered, hanswered, hsublist⟩ := h.numbered
  rw [hconnecting] at hanswered
  refine ⟨fun _ ↦ ⟨hcurrent, hshutdown⟩, fun _ ↦ hcurrent, h.silent, ?_, ?_, h.attempts, ?_, ?_⟩
  · intro place hplace
    exact nomatch hcurrent.symm.trans hplace
  · rintro _ place hplace
    cases hplace
    refine ⟨0, ?_⟩
    dsimp only [Course.connect]
    rw [hledger, hlength, List.getElem?_concat_length]
  · refine ⟨x.session.generation, rfl, ?_⟩
    dsimp only [Course.connect]
    rw [hledger, List.map_append, ← hanswered]
    change List.Sublist _ (List.range' 1 (answered + 1))
    rw [List.range'_concat, Nat.one_mul, Nat.add_comm 1]
    exact hsublist.append (List.Sublist.refl _)
  · have hbalanced := h.balanced
    simp only [open?, hconnecting] at hbalanced
    rw [hcurrent] at hbalanced
    have hbuilt := hbalanced.concat x.session.generation
    dsimp only [Course.connect]
    rw [hledger]
    exact hlength ▸ hbuilt

/-- A connection that could not be set up is to be closed. -/
theorem notSetUp (h : x.Sound) {resetting : Bool} {place : Nat}
    (hsettingUp : x.progress = .settingUp resetting place) (cause : Failure) :
    ({ x with progress := .rejecting place cause } : Course).Sound := by
  obtain ⟨hcurrent, hshutdown⟩ := h.vacant (by simp [hsettingUp])
  have hbalanced := h.balanced
  simp only [open?, hsettingUp] at hbalanced
  obtain ⟨answered, hanswered, hsublist⟩ := h.numbered
  simp only [hsettingUp] at hanswered
  exact ⟨fun _ ↦ ⟨hcurrent, hshutdown⟩, fun _ ↦ hcurrent, h.silent, h.live,
    (fun _ _ hplace ↦ nomatch hplace), h.attempts, ⟨answered, hanswered, hsublist⟩, hbalanced⟩

/-- The connection that was built becomes the installed one. -/
theorem install (h : x.Sound) {resetting : Bool} {place : Nat}
    (hsettingUp : x.progress = .settingUp resetting place) : (x.install resetting place).Sound := by
  obtain ⟨hcurrent, hshutdown⟩ := h.vacant (by simp [hsettingUp])
  have hinstalled : (x.finish { x.session with
      liveGeneration := x.session.generation
      current := some place } (.ok ())).Sound := {
    vacant := fun hbusy ↦ absurd rfl hbusy
    shutdown := fun hclosed ↦ nomatch hshutdown.symm.trans hclosed
    silent := fun hnone ↦ nomatch hnone
    live := by
      intro other hother
      cases hother
      exact h.building resetting place hsettingUp
    building := fun _ _ hplace ↦ nomatch hplace
    attempts := h.attempts
    numbered := by
      obtain ⟨answered, hanswered, hsublist⟩ := h.numbered
      rw [hsettingUp] at hanswered
      exact ⟨answered, hanswered, hsublist⟩
    balanced := by
      have hbalanced := h.balanced
      simp only [open?, hsettingUp] at hbalanced
      exact hbalanced }
  have hstate := hinstalled.of_same (same_setState _ .negotiating)
  cases resetting with
  | false => exact hstate
  | true => exact hstate.of_same (same_publish _ _)

/-- A connection that cannot be set up is closed. -/
theorem reject (h : x.Sound) {place : Nat} {cause : Failure}
    (hrejecting : x.progress = .rejecting place cause) (answer : Except Failure Unit) :
    (x.reject place cause answer).Sound := by
  obtain ⟨hcurrent, -⟩ := h.vacant (by simp [hrejecting])
  have hledger : (x.session.modify place (·.closed answer)).ledger =
      closing x.session.ledger place :=
    x.session.ledger_modify_closing place (fun _ ↦ rfl) fun c ↦ by simp [Connection.closed]
  have hbalanced := h.balanced
  simp only [open?, hrejecting] at hbalanced
  have hvacant : x.Vacant (x.session.modify place (·.closed answer)) :=
    { current := hcurrent
      liveGeneration := h.silent hcurrent
      generation := rfl
      numbers := (congrArg (List.map Prod.fst) hledger).trans (map_fst_closing _ _)
      balanced := hledger ▸ hbalanced.closing }
  exact h.of_vacant (congrArg Progress.asked hrejecting) hvacant (.inl rfl) _

/-- Every move keeps what a course can be relied on for. -/
theorem step (h : x.Sound) {move : Move} {y : Course} (hstep : x.Step move y) : y.Sound := by
  cases hstep with
  | idle => exact h
  | keep place hfree hcurrent => exact (h.reopen hfree).finish (open?_of_free hfree) _
  | build hfree hcurrent =>
    apply (h.reopen hfree).attempt hcurrent rfl
    · exact congrArg Progress.asked hfree
    · exact (open?_of_free hfree).trans hcurrent
  | refuse closing hfree hshutdown => exact h.finish (open?_of_free hfree) _
  | rebuild closing hfree hshutdown hcurrent =>
    apply h.attempt hcurrent hshutdown
    · exact congrArg Progress.asked hfree
    · exact (open?_of_free hfree).trans hcurrent
  | giveUp closing place hfree hshutdown hcurrent =>
    have hvacant := h.vacant_retire hfree x.session.shutdown closing
    rw [giveUp_of_some hcurrent]
    refine h.of_vacant (congrArg Progress.asked hfree) hvacant (.inr ⟨rfl, ?_⟩) x.ended
    rw [← giveUp_of_some hcurrent, shutdown_giveUp, hshutdown]
  | close closing hfree =>
    have hvacant := h.vacant_retire hfree true closing
    exact h.of_vacant (congrArg Progress.asked hfree) hvacant (.inl rfl) _
  | settle hsettling =>
    obtain ⟨hcurrent, hshutdown⟩ := h.vacant (by simp [hsettling])
    apply h.attempt hcurrent hshutdown
    · exact congrArg Progress.asked hsettling
    · simp only [open?, hsettling]
      exact hcurrent
  | notConnected resetting cause hconnecting =>
    exact h.finish (by simp only [open?, hconnecting]) _
  | connect resetting hconnecting => exact h.connect hconnecting
  | notSetUp answers resetting place cause hsettingUp =>
    exact (h.of_setUp place answers).notSetUp hsettingUp cause
  | setUp answers resetting place hsettingUp =>
    exact (h.of_setUp place answers).install hsettingUp
  | reject answer place cause hrejecting => exact h.reject hrejecting answer
  | report place event => exact h.of_same (x.session.same_report place event)
  | use place use =>
    exact h.of_same
      (x.session.same_modify place (fun c ↦ c.generation_use use) fun c ↦ c.closes_use use)

theorem take (h : x.Sound) (move : Move) : (x.take move).Sound := h.step (x.step_take move)

theorem takeAll (h : x.Sound) (moves : List Move) : (x.takeAll moves).Sound := by
  induction moves generalizing x with
  | nil => exact h
  | cons move moves ih => exact ih (h.take move)

/-! ## What the ledger says of connections -/

/-- A connection is open only in one place, and every other one was closed once. -/
theorem length_closes (h : x.Sound) {place : Nat} {c : Connection}
    (hc : x.session.connections[place]? = some c) :
    c.closes.length = if x.open? = some place then 0 else 1 :=
  h.balanced place _ (getElem?_ledger_of_connection hc)

theorem length_closes_le (h : x.Sound) {c : Connection} (hc : c ∈ x.session.connections) :
    c.closes.length ≤ 1 := by
  obtain ⟨place, hplace⟩ := List.mem_iff_getElem?.mp hc
  rw [h.length_closes hplace]
  split_ifs <;> decide

theorem open?_eq_some (h : x.Sound) {place : Nat} {c : Connection}
    (hc : x.session.connections[place]? = some c) (hopen : c.isClosed = false) :
    x.open? = some place := by
  by_contra hother
  have hlength := h.length_closes hc
  rw [if_neg hother] at hlength
  cases hcloses : c.closes with
  | nil => simp [hcloses] at hlength
  | cons _ _ => simp [Connection.isClosed, hcloses] at hopen

/-- While no call has control, the open connection is the installed one. -/
theorem exists_open_iff (h : x.Sound) (hfree : x.progress = .free) (place : Nat) :
    (∃ c, x.session.connections[place]? = some c ∧ c.isClosed = false) ↔
      x.session.current = some place := by
  constructor
  · rintro ⟨c, hc, hopen⟩
    rw [← open?_of_free hfree]
    exact h.open?_eq_some hc hopen
  · intro hcurrent
    obtain ⟨closes, hlive⟩ := h.live place hcurrent
    obtain ⟨c, hc, -⟩ := exists_connection_of_ledger hlive
    have hlength := h.length_closes hc
    rw [open?_of_free hfree, if_pos hcurrent, List.length_eq_zero_iff] at hlength
    exact ⟨c, hc, by simp [Connection.isClosed, hlength]⟩

end Sound

/-! ## Closed courses -/

/-- What stays as it is in a course that was closed, as long as it is not opened. -/
structure Rests (x y : Course) : Prop where
  free : y.progress = .free
  shutdown : y.session.shutdown = true
  length : y.session.connections.length = x.session.connections.length
  attempts : y.attempts = x.attempts

theorem length_ledger (s : Session) : s.ledger.length = s.connections.length :=
  List.length_map _

theorem rests_close (closing : Except Failure Unit) : x.Rests (x.close closing) := by
  have hclosed : (x.session.close closing).shutdown = true ∧
      (x.session.close closing).connections.length = x.session.connections.length := by
    unfold Session.close retire
    rw [setState_eq]
    split <;> simp [modify]
  exact ⟨rfl, hclosed.1, hclosed.2, rfl⟩

/-- A closed course refuses to be reset. -/
theorem Rests.take_reset {y : Course} (h : x.Rests y) (closing : Except Failure Unit) :
    y.take (.reset closing) = { y with ended := y.ended ++ [.error .sessionClosed] } := by
  rw [Course.take_reset h.free, reset_of_shutdown h.shutdown, finish, ← h.free]

theorem Rests.step {y z : Course} (h : x.Rests y) {move : Move} (hmove : move ≠ .establish)
    (hstep : y.Step move z) : x.Rests z := by
  have hbusy : ∀ {progress : Progress}, y.progress = progress → progress = .free :=
    fun hprogress ↦ hprogress.symm.trans h.free
  have hopened : y.session.shutdown ≠ false := by simp [h.shutdown]
  cases hstep with
  | idle => exact h
  | keep => exact absurd rfl hmove
  | build => exact absurd rfl hmove
  | refuse => exact ⟨rfl, h.shutdown, h.length, h.attempts⟩
  | rebuild closing hfree hshutdown => exact absurd hshutdown hopened
  | giveUp closing place hfree hshutdown => exact absurd hshutdown hopened
  | close closing =>
    obtain ⟨hfree, hshutdown, hlength, hattempts⟩ := y.rests_close closing
    exact ⟨hfree, hshutdown, hlength.trans h.length, hattempts.trans h.attempts⟩
  | settle hsettling => exact nomatch hbusy hsettling
  | notConnected resetting cause hconnecting => exact nomatch hbusy hconnecting
  | connect resetting hconnecting => exact nomatch hbusy hconnecting
  | notSetUp answers resetting place cause hsettingUp => exact nomatch hbusy hsettingUp
  | setUp answers resetting place hsettingUp => exact nomatch hbusy hsettingUp
  | reject answer place cause hrejecting => exact nomatch hbusy hrejecting
  | report place event =>
    have hsame := y.session.same_report place event
    have hlength := congrArg List.length hsame.ledger
    rw [length_ledger, length_ledger] at hlength
    exact ⟨h.free, hsame.shutdown.trans h.shutdown, hlength.trans h.length, h.attempts⟩
  | use place use =>
    exact ⟨h.free, h.shutdown, (List.length_modify _ _ _).trans h.length, h.attempts⟩

theorem Rests.takeAll {y : Course} (h : x.Rests y) {moves : List Move}
    (hmoves : .establish ∉ moves) : x.Rests (y.takeAll moves) := by
  induction moves generalizing y with
  | nil => exact h
  | cons move moves ih =>
    rw [List.mem_cons, not_or] at hmoves
    exact ih (h.step (Ne.symm hmoves.1) (y.step_take move)) hmoves.2

/-- What holds in one place only, if anywhere, is counted at most once. -/
theorem countP_le_one_of_place {α : Type} {p : α → Bool} {entries : List α}
    (place? : Option Nat)
    (h : ∀ place a, entries[place]? = some a → p a = true → place? = some place) :
    entries.countP p ≤ 1 := by
  induction entries generalizing place? with
  | nil => exact Nat.zero_le 1
  | cons first rest ih =>
    cases hfirst : p first with
    | false =>
      rw [List.countP_cons_of_neg (by simp [hfirst])]
      refine ih (place?.map (· - 1)) fun place a ha hp ↦ ?_
      rw [h (place + 1) a ha hp]
      rfl
    | true =>
      have hplace := h 0 first rfl hfirst
      have hrest : rest.countP p = 0 := by
        rw [List.countP_eq_zero]
        intro a hmem hp
        obtain ⟨place, ha⟩ := List.mem_iff_getElem?.mp hmem
        have hother := h (place + 1) a ha hp
        simp [hplace] at hother
      rw [List.countP_cons_of_pos hfirst, hrest]

/-- Every connection that the transport makes is closed once, whatever fails and whatever happens in
between: only one is open at any moment, and while no call has control it is the installed one.
Every build that is attempted is of a later generation than those before it.  A closed session
builds nothing and refuses every reset until it is opened. -/
theorem each_closed_once (config : SessionConfig) (journal : List StreamEvent)
    (moves : List Move) :
    let x := (start config journal).takeAll moves
    x.session.connections.countP (!·.isClosed) ≤ 1 ∧
      (x.progress = .free → ∀ place,
        (∃ c, x.session.connections[place]? = some c ∧ c.isClosed = false) ↔
          x.session.current = some place) ∧
      (∀ c ∈ x.session.connections, c.closes.length ≤ 1) ∧
      x.attempts.Pairwise (· < ·) ∧
      (x.session.connections.map (·.generation)).Sublist x.attempts ∧
      (x.progress = .free → ∀ closing later, .establish ∉ later →
        let z := (x.take (.close closing)).takeAll later
        z.session.connections.length = x.session.connections.length ∧
          z.attempts = x.attempts ∧
          ∀ again, z.take (.reset again) =
            { z with ended := z.ended ++ [.error .sessionClosed] }) ∧
      Failure.sessionClosed.isNotReady = true := by
  intro x
  have hx : x.Sound := (sound_start config journal).takeAll moves
  refine ⟨?_, hx.exists_open_iff, fun c ↦ hx.length_closes_le, ?_, ?_, ?_, rfl⟩
  · apply countP_le_one_of_place x.open?
    intro place c hc hopen
    exact hx.open?_eq_some hc (by simpa using hopen)
  · rw [hx.attempts]
    exact List.pairwise_lt_range'
  · obtain ⟨answered, hanswered, hsublist⟩ := hx.numbered
    have hgenerations : x.session.connections.map (·.generation) =
        x.session.ledger.map Prod.fst := by
      rw [ledger, List.map_map]
      rfl
    rw [hgenerations, hx.attempts]
    apply hsublist.trans
    apply List.range'_sublist_right.mpr
    omega
  · intro hfree closing later hlater z
    have hz : x.Rests z := by
      have hclosed := x.rests_close closing
      rw [← take_close hfree] at hclosed
      exact hclosed.takeAll hlater
    exact ⟨hz.length, hz.attempts, hz.take_reset⟩

/-- The first connection gets no offer, the second one is given up by a reset, and there is no third
one.  The session is then closed. -/
theorem each_closed_once_failing_transport :
    let moves := .establish ::
        buildMoves { TransportAnswers.working none with createOffer := .error .noVideoTrack } ++
      .establish :: buildMoves (.working none) ++
      [.reset (.error .noVideoTrack), .settle, .connect (.error .noVideoTrack)]
    let x := (start ⟨.h264, [], true, 100⟩ []).takeAll moves
    let later := [.report 1 (.stateChanged .connected), .reset (.ok ()), .settle]
    x.progress = .free ∧ .establish ∉ later ∧ x.attempts = [1, 2, 3] ∧
      x.session.connections.map (·.closes.length) = [1, 1] ∧
      ((x.take (.close (.ok ()))).takeAll later).session.connections.length = 2 := by
  intro moves x later
  obtain ⟨-, -, -, -, -, hclosed, -⟩ := each_closed_once ⟨.h264, [], true, 100⟩ [] moves
  have hlater : Move.establish ∉ later := by simp [later]
  exact ⟨rfl, hlater, rfl, rfl, (hclosed rfl (.ok ()) later hlater).1⟩

end Course

end Session

end LiveCamera
