import LiveCamera.Proofs.Rehearsal.Turns
import LiveCamera.Proofs.Session.Gating
import Mathlib.Data.List.Perm.Basic

/-!
# Resets that go on by themselves

However the turns are interleaved, the session is rebuilt by one reset at a time.  The right to do
so is a job, either one whose turn it is (`granted`) or one that has given the connection up and
will build the next one (`rebuild`).  `Orderly` says that there is exactly one such job while the
session is being rebuilt, and that no connection is installed while the second half of a reset is
still to be done.  Every turn keeps it.
-/

namespace LiveCamera

open Signaling

namespace Session

variable {s t u : Session}

/-- What is the same in a session that nobody rebuilds. -/
structure Keeps (s t : Session) : Prop where
  current : t.current = s.current
  liveGeneration : t.liveGeneration = s.liveGeneration
  generation : t.generation = s.generation
  shutdown : t.shutdown = s.shutdown
  coherent : s.Coherent → t.Coherent

namespace Keeps

theorem refl (s : Session) : s.Keeps s := ⟨rfl, rfl, rfl, rfl, id⟩

theorem trans (h : s.Keeps t) (h' : t.Keeps u) : s.Keeps u where
  current := h'.current.trans h.current
  liveGeneration := h'.liveGeneration.trans h.liveGeneration
  generation := h'.generation.trans h.generation
  shutdown := h'.shutdown.trans h.shutdown
  coherent := h'.coherent ∘ h.coherent

end Keeps

theorem keeps_publish (s : Session) (event : StreamEvent) : s.Keeps (s.publish event) :=
  ⟨rfl, rfl, rfl, rfl, fun h ↦ h.publish event⟩

theorem keeps_report (s : Session) (place : Nat) (event : TransportEvent) :
    s.Keeps (s.report place event) := by
  have hcoherent : s.Coherent → (s.report place event).Coherent := fun h ↦ h.report place event
  rcases s.report_cases place event with hreport | ⟨wanted, state, hreport, -, -⟩ <;>
    rw [hreport] at hcoherent ⊢
  · exact ⟨rfl, rfl, rfl, rfl, hcoherent⟩
  · rw [setState_eq] at hcoherent ⊢
    exact ⟨rfl, rfl, rfl, rfl, hcoherent⟩

theorem keeps_modify (s : Session) (place : Nat) {f : Connection → Connection}
    (hgeneration : ∀ c, (f c).generation = c.generation) (hvideo : ∀ c, (f c).video = c.video)
    (haudio : ∀ c, (f c).audio = c.audio) : s.Keeps (s.modify place f) :=
  ⟨rfl, rfl, rfl, rfl, fun h ↦ h.modify place hgeneration hvideo haudio⟩

theorem keeps_applyAnswer (s : Session) (sdp : String) (answer : Except Failure Unit) :
    s.Keeps (s.applyAnswer sdp answer) := by
  unfold applyAnswer
  split
  · exact s.keeps_modify _ (fun _ ↦ rfl) (fun _ ↦ rfl) fun _ ↦ rfl
  · exact .refl s

theorem keeps_addCandidate (s : Session) (candidate : String) (mid : Option String)
    (answer : Except Failure Unit) : s.Keeps (s.addCandidate candidate mid answer) := by
  unfold addCandidate
  split
  · exact s.keeps_modify _ (fun _ ↦ rfl) (fun _ ↦ rfl) fun _ ↦ rfl
  · exact .refl s

end Session

namespace Rehearsal

variable {x y z : Rehearsal}

/-- How often a job is still to be run. -/
def pending (x : Rehearsal) (job : Job) : Nat :=
  x.ready.count job + (x.sleeping.map (·.2)).count job

/-- The rehearsal without a job that can run. -/
def without (x : Rehearsal) (place : Nat) : Rehearsal :=
  { x with ready := x.ready.eraseIdx place }

theorem pending_without {place : Nat} {job : Job} (h : x.ready[place]? = some job) (other : Job) :
    (x.without place).pending other + [job].count other = x.pending other := by
  obtain ⟨hplace, rfl⟩ := List.getElem?_eq_some_iff.mp h
  have hperm := List.getElem_cons_eraseIdx_perm hplace
  have hcount := hperm.count_eq other
  rw [← List.singleton_append, List.count_append] at hcount
  simp only [pending, without]
  omega

theorem pending_append (x : Rehearsal) (jobs : List Job) (other : Job) :
    ({ x with ready := x.ready ++ jobs } : Rehearsal).pending other =
      x.pending other + jobs.count other := by
  simp only [pending, List.count_append]
  omega

theorem pending_after (x : Rehearsal) (delay : Nat) (job other : Job) :
    (x.after delay job).pending other = x.pending other + [job].count other := by
  unfold after
  split_ifs
  · simp only [pending]
    rw [← List.singleton_append, List.count_append]
    omega
  · simp only [pending, List.map_append, List.count_append, List.map_cons, List.map_nil]
    omega

theorem pending_wake (x : Rehearsal) (time : Nat) (job : Job) :
    (x.wake time).pending job = x.pending job := by
  have hlater : (fun s : Nat × Job ↦ decide (time < s.1)) = fun s ↦ !decide (s.1 ≤ time) := by
    funext s
    rw [← decide_not, decide_eq_decide, Nat.not_le]
  have hsplit := (List.filter_append_perm (fun s ↦ decide (s.1 ≤ time)) x.sleeping).map (·.2)
  have hcount := hsplit.count_eq job
  rw [List.map_append, List.count_append] at hcount
  simp only [pending, wake, hlater, List.count_append]
  omega

/-! ## Turns in which nobody rebuilds -/

/-- What is the same after a turn that neither begins a reset nor ends one. -/
structure Quiet (x y : Rehearsal) : Prop where
  session : x.session.Keeps y.session
  rebuilding : y.rebuilding = x.rebuilding
  granted : y.pending .granted = x.pending .granted
  rebuild : y.pending .rebuild = x.pending .rebuild

namespace Quiet

theorem refl (x : Rehearsal) : x.Quiet x := ⟨.refl _, rfl, rfl, rfl⟩

theorem trans (h : x.Quiet y) (h' : y.Quiet z) : x.Quiet z where
  session := h.session.trans h'.session
  rebuilding := h'.rebuilding.trans h.rebuilding
  granted := h'.granted.trans h.granted
  rebuild := h'.rebuild.trans h.rebuild

end Quiet

theorem quiet_perform (x : Rehearsal) (action : Action) : x.Quiet (x.perform action) := by
  cases action with
  | send wire text => exact ⟨.refl _, rfl, rfl, rfl⟩
  | publish event => exact ⟨x.session.keeps_publish event, rfl, rfl, rfl⟩
  | offer wire client => exact ⟨.refl _, rfl, x.pending_append _ _, x.pending_append _ _⟩
  | answer sdp =>
    simp only [perform, applyAnswer]
    split
    · exact ⟨x.session.keeps_applyAnswer _ _, rfl, x.pending_append _ _, x.pending_append _ _⟩
    · exact .refl x
  | candidate candidate mid => exact ⟨x.session.keeps_addCandidate _ _ _, rfl, rfl, rfl⟩
  | viewerLeft client =>
    simp only [perform]
    split_ifs
    · exact ⟨.refl _, rfl, x.pending_append _ _, x.pending_append _ _⟩
    · exact ⟨.refl _, rfl, rfl, rfl⟩

theorem quiet_foldl_perform (x : Rehearsal) (actions : List Action) :
    x.Quiet (actions.foldl perform x) := by
  induction actions generalizing x with
  | nil => exact .refl x
  | cons action actions ih => exact (x.quiet_perform action).trans (ih _)

theorem quiet_tryOffer (x : Rehearsal) (wire : Nat) (client : String) (attempts : Nat) :
    x.Quiet (x.tryOffer wire client attempts) := by
  cases attempts with
  | zero => exact .refl x
  | succ attempts =>
    simp only [tryOffer]
    split_ifs
    · exact .refl x
    · exact ⟨.refl _, rfl, rfl, rfl⟩
    · exact .refl x
    · refine ⟨?_, ?_, ?_, ?_⟩
      · unfold after
        split_ifs <;> exact .refl _
      · unfold after
        split_ifs <;> rfl
      · simp [pending_after]
      · simp [pending_after]

/-- Whether a reset begins in a turn: one that nobody keeps waiting, or one that has waited for its
turn. -/
def Begins (x : Rehearsal) (turn : Turn) : Prop :=
  ∃ place job, turn = .job place ∧ x.ready[place]? = some job ∧
    (job = .granted ∨ job = .reset ∧ x.rebuilding = false)

/-- Whether a reset ends in a turn. -/
def Ends (x : Rehearsal) (turn : Turn) : Prop :=
  ∃ place, turn = .job place ∧ x.ready[place]? = some .rebuild

theorem quiet_without {place : Nat} {job : Job} (h : x.ready[place]? = some job)
    (hgranted : job ≠ .granted) (hrebuild : job ≠ .rebuild) : x.Quiet (x.without place) := by
  have hg := pending_without h .granted
  have hr := pending_without h .rebuild
  simp only [List.count_singleton, beq_iff_eq, hgranted, hrebuild, if_false] at hg hr
  exact ⟨.refl _, rfl, hg, hr⟩

/-- A turn in which no reset begins or ends is a quiet one. -/
theorem quiet_take {turn : Turn} (hbegins : ¬x.Begins turn) (hends : ¬x.Ends turn) :
    x.Quiet (x.take turn) := by
  cases turn with
  | dispatch event =>
    have hregistry : x.Quiet { x with registry := (x.registry.dispatch event).2 } :=
      ⟨.refl _, rfl, rfl, rfl⟩
    exact hregistry.trans (quiet_foldl_perform _ _)
  | stop => exact ⟨.refl _, rfl, rfl, rfl⟩
  | job place =>
    cases hjob : x.ready[place]? with
    | none =>
      simp only [take, hjob]
      exact .refl x
    | some job =>
      rw [take_job hjob]
      change x.Quiet ((x.without place).run job)
      cases job with
      | report target event =>
        exact (quiet_without hjob (by simp) (by simp)).trans
          ⟨Session.keeps_report _ target event, rfl, rfl, rfl⟩
      | reset =>
        -- It does not begin, so it has to wait.
        have hrebuilding : (x.without place).rebuilding = true := by
          by_contra hfree
          exact hbegins ⟨place, .reset, rfl, hjob, .inr ⟨rfl, eq_false_of_ne_true hfree⟩⟩
        rw [run, if_pos hrebuilding]
        exact (quiet_without hjob (by simp) (by simp)).trans ⟨.refl _, rfl, rfl, rfl⟩
      | granted => exact absurd ⟨place, .granted, rfl, hjob, .inl rfl⟩ hbegins
      | rebuild => exact absurd ⟨place, rfl, hjob⟩ hends
      | offer wire client attempts =>
        exact (quiet_without hjob (by simp) (by simp)).trans (quiet_tryOffer _ wire client attempts)
  | wake time => exact ⟨.refl _, rfl, x.pending_wake time .granted, x.pending_wake time .rebuild⟩
  | report place event => exact ⟨x.session.keeps_report place event, rfl, rfl, rfl⟩
  | describe place sdp =>
    exact ⟨x.session.keeps_modify place (fun _ ↦ rfl) (fun _ ↦ rfl) fun _ ↦ rfl, rfl, rfl, rfl⟩
  | follow script => exact ⟨.refl _, rfl, rfl, rfl⟩

/-! ## One reset at a time -/

/-- The session is rebuilt by one reset at a time, and without a connection. -/
structure Orderly (x : Rehearsal) : Prop where
  coherent : x.session.Coherent
  rights : x.pending .granted + x.pending .rebuild = x.rebuilding.toNat
  vacant : x.pending .rebuild ≠ 0 → x.session.current = none ∧ x.session.shutdown = false

theorem Orderly.of_quiet (h : x.Orderly) (hquiet : x.Quiet y) : y.Orderly where
  coherent := hquiet.session.coherent h.coherent
  rights := by rw [hquiet.granted, hquiet.rebuild, hquiet.rebuilding, h.rights]
  vacant := by
    rw [hquiet.rebuild, hquiet.session.current, hquiet.session.shutdown]
    exact h.vacant

@[simp]
theorem session_release (x : Rehearsal) : x.release.session = x.session := by
  unfold release
  split <;> rfl

@[simp]
theorem session_after (x : Rehearsal) (delay : Nat) (job : Job) :
    (x.after delay job).session = x.session := by
  unfold after
  split_ifs <;> rfl

@[simp]
theorem rebuilding_after (x : Rehearsal) (delay : Nat) (job : Job) :
    (x.after delay job).rebuilding = x.rebuilding := by
  unfold after
  split_ifs <;> rfl

theorem session_finishReset (x : Rehearsal) :
    x.finishReset.session = (x.session.rebuild x.script.answers).2 := by
  simp [finishReset, withSession, noteLimits]

/-- A reset that begins stops at once in a closed session; it builds a connection at once if there is
none, and gives the connection up if there is one. -/
theorem beginReset_cases (x : Rehearsal) :
    x.session.shutdown = true ∧
        x.beginReset = ({ x with
          rebuilding := true
          finished := x.finished ++ [.error .sessionClosed] } : Rehearsal).release ∨
      x.session.shutdown = false ∧ x.session.current = none ∧
        x.beginReset = ({ x with rebuilding := true } : Rehearsal).finishReset ∨
      x.session.shutdown = false ∧
        x.beginReset = ({ x with
          rebuilding := true
          session := x.session.giveUp (x.script.verdict .close) } : Rehearsal).after
            x.session.config.resetSettle .rebuild := by
  unfold beginReset
  dsimp only
  split_ifs with hshutdown hcurrent
  · exact .inl ⟨hshutdown, rfl⟩
  · exact .inr (.inl ⟨eq_false_of_ne_true hshutdown, Option.isNone_iff_eq_none.mp hcurrent, rfl⟩)
  · exact .inr (.inr ⟨eq_false_of_ne_true hshutdown, rfl⟩)

/-- Whoever has rebuilt the session leaves the right to do so to the next one, or to nobody. -/
theorem orderly_release (hcoherent : x.session.Coherent) (hrebuilding : x.rebuilding = true)
    (hgranted : x.pending .granted = 0) (hrebuild : x.pending .rebuild = 0) :
    x.release.Orderly := by
  unfold release
  split
  · refine ⟨hcoherent, ?_, fun hpending ↦ absurd hrebuild hpending⟩
    change x.pending .granted + x.pending .rebuild = 0
    omega
  · have hnext := x.pending_append [.granted] .granted
    have hnone := x.pending_append [.granted] .rebuild
    refine ⟨hcoherent, ?_, fun hpending ↦ absurd (hnone.trans hrebuild) hpending⟩
    rw [hrebuilding]
    calc
      _ = x.pending .granted + 1 + x.pending .rebuild := congrArg₂ (· + ·) hnext hnone
      _ = 1 := by omega

theorem orderly_finishReset (hcoherent : x.session.Coherent) (hcurrent : x.session.current = none)
    (hshutdown : x.session.shutdown = false) (hrebuilding : x.rebuilding = true)
    (hgranted : x.pending .granted = 0) (hrebuild : x.pending .rebuild = 0) :
    x.finishReset.Orderly :=
  orderly_release (hcoherent.rebuild hcurrent hshutdown _) hrebuilding hgranted hrebuild

theorem orderly_beginReset (hcoherent : x.session.Coherent) (hgranted : x.pending .granted = 0)
    (hrebuild : x.pending .rebuild = 0) : x.beginReset.Orderly := by
  rcases x.beginReset_cases with ⟨-, hbegin⟩ | ⟨hshutdown, hcurrent, hbegin⟩ |
    ⟨hshutdown, hbegin⟩ <;> rw [hbegin]
  · exact orderly_release hcoherent rfl hgranted hrebuild
  · exact orderly_finishReset hcoherent hcurrent hshutdown rfl hgranted hrebuild
  · refine ⟨?_, ?_, ?_⟩
    · rw [session_after]
      exact hcoherent.giveUp _
    · rw [pending_after, pending_after, rebuilding_after]
      change x.pending .granted + 0 + (x.pending .rebuild + 1) = 1
      omega
    · intro _
      rw [session_after]
      exact ⟨x.session.current_giveUp _, (x.session.shutdown_giveUp _).trans hshutdown⟩

/-- Whoever begins a reset has the only right to do so. -/
theorem Orderly.exists_beginReset (h : x.Orderly) {turn : Turn} (hbegins : x.Begins turn) :
    ∃ y : Rehearsal, x.take turn = y.beginReset ∧ y.session = x.session ∧
      y.pending .granted = 0 ∧ y.pending .rebuild = 0 := by
  obtain ⟨place, job, rfl, hjob, hright⟩ := hbegins
  have hrights := h.rights
  have hbound := x.rebuilding.toNat_le
  rcases hright with rfl | ⟨rfl, hfree⟩
  · have hgranted : (x.without place).pending .granted + 1 = x.pending .granted :=
      pending_without hjob .granted
    have hrebuild : (x.without place).pending .rebuild = x.pending .rebuild :=
      pending_without hjob .rebuild
    exact ⟨x.without place, take_job hjob, rfl, by omega, by omega⟩
  · have hgranted : (x.without place).pending .granted = x.pending .granted :=
      pending_without hjob .granted
    have hrebuild : (x.without place).pending .rebuild = x.pending .rebuild :=
      pending_without hjob .rebuild
    have hnone : x.rebuilding.toNat = 0 := by rw [hfree]; rfl
    have hturn : x.take (.job place) = (x.without place).beginReset :=
      (take_job hjob).trans (if_neg (by simp [hfree]))
    exact ⟨x.without place, hturn, rfl, by omega, by omega⟩

/-- Whoever ends a reset has the only right to do so, and there is no connection. -/
theorem Orderly.exists_finishReset (h : x.Orderly) {turn : Turn} (hends : x.Ends turn) :
    ∃ y : Rehearsal, x.take turn = y.finishReset ∧ y.session = x.session ∧
      y.session.current = none ∧ y.session.shutdown = false ∧ y.rebuilding = true ∧
      y.pending .granted = 0 ∧ y.pending .rebuild = 0 := by
  obtain ⟨place, rfl, hjob⟩ := hends
  have hrights := h.rights
  have hbound := x.rebuilding.toNat_le
  have hgranted : (x.without place).pending .granted = x.pending .granted :=
    pending_without hjob .granted
  have hrebuild : (x.without place).pending .rebuild + 1 = x.pending .rebuild :=
    pending_without hjob .rebuild
  obtain ⟨hcurrent, hshutdown⟩ := h.vacant (by omega)
  have hrebuilding : x.rebuilding = true := by
    rw [← Bool.toNat_eq_one]
    omega
  exact ⟨x.without place, take_job hjob, rfl, hcurrent, hshutdown, hrebuilding, by omega, by omega⟩

theorem Orderly.take (h : x.Orderly) (turn : Turn) : (x.take turn).Orderly := by
  by_cases hbegins : x.Begins turn
  · obtain ⟨y, hturn, hsession, hgranted, hrebuild⟩ := h.exists_beginReset hbegins
    rw [hturn]
    exact orderly_beginReset (hsession ▸ h.coherent) hgranted hrebuild
  · by_cases hends : x.Ends turn
    · obtain ⟨y, hturn, hsession, hcurrent, hshutdown, hrebuilding, hgranted, hrebuild⟩ :=
        h.exists_finishReset hends
      rw [hturn]
      exact orderly_finishReset (hsession ▸ h.coherent) hcurrent hshutdown hrebuilding hgranted
        hrebuild
    · exact h.of_quiet (quiet_take hbegins hends)

theorem Orderly.takeAll (h : x.Orderly) (turns : List Turn) : (x.takeAll turns).Orderly := by
  induction turns generalizing x with
  | nil => exact h
  | cons turn turns ih => exact ih (h.take turn)

/-- A rehearsal is orderly whatever has happened. -/
theorem Reachable.orderly {opened : List Nat} (h : Reachable opened x) : x.Orderly := by
  induction h with
  | start script config journal operations retry resetsForNextViewer =>
    exact ⟨(Session.coherent_new config journal).run operations, rfl, fun h ↦ absurd rfl h⟩
  | turn _ turn _ ih => exact ih.take turn

end Rehearsal

end LiveCamera
