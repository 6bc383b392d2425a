import LiveCamera.Proofs.Rehearsal.Rebuilding

/-!
# Requests that are being pursued

A request that is granted sets off a `Pursuit`: the local description is looked for again and again,
until there is one or all attempts are used up.  A rehearsal keeps only the job by which a pursuit
goes on.  The ledger along the turns keeps what has come of each of them: when the description was
looked for, what there was, and what was sent.  `Balanced` says that the ledger and the jobs agree,
so that no offer is sent but in a pursuit, and no pursuit is forgotten; every turn keeps it.
-/

namespace LiveCamera

open Signaling

/-- Whether a job is to send an offer. -/
def Job.isOffer : Job → Bool
  | .offer .. => true
  | _ => false

/-- When the local description is looked for again. -/
inductive Wait
  | now
  | later (due : Nat)
  | done
  deriving DecidableEq

/-- A look for the local description: when it was taken, what it found, and what was sent. -/
structure Look where
  time : Nat
  description : String
  sent : List (Nat × String)

/-- What has come of a request that was granted. -/
structure Pursuit where
  wire : Nat
  client : String
  attempts : Nat
  looks : List Look
  wait : Wait

namespace Pursuit

/-- The job by which a pursuit goes on. -/
def job (p : Pursuit) : Job := .offer p.wire p.client (p.attempts - p.looks.length)

/-- The job, if it can run. -/
def ready? (p : Pursuit) : Option Job :=
  match p.wait with
  | .now => some p.job
  | _ => none

/-- The job with the time at which it can run, if it cannot run before. -/
def asleep? (p : Pursuit) : Option (Nat × Job) :=
  match p.wait with
  | .later due => some (due, p.job)
  | _ => none

/-- The pursuit that signaling asks for. -/
def ofAction? (attempts : Nat) : Action → Option Pursuit
  | .offer wire client => some ⟨wire, client, attempts, [], .now⟩
  | _ => none

/-- The texts that have been sent. -/
def sent (p : Pursuit) : List (Nat × String) := p.looks.flatMap (·.sent)

def wake (time : Nat) (p : Pursuit) : Pursuit :=
  { p with
    wait := match p.wait with
      | .later due => if due ≤ time then .now else .later due
      | wait => wait }

/-- The pursuit after a look that its job takes in a turn from `x` to `y`. -/
def look (x y : Rehearsal) (p : Pursuit) : Pursuit :=
  { p with
    looks := p.looks ++ [⟨x.clock, x.session.localDescription, y.outbox.drop x.outbox.length⟩]
    wait :=
      if x.session.localDescription ≠ "" ∨ p.attempts - p.looks.length ≤ 1 then .done
      else if x.retry.delay = 0 then .now
      else .later (x.clock + x.retry.delay) }

@[simp]
theorem looks_look (x y : Rehearsal) (p : Pursuit) :
    (p.look x y).looks = p.looks ++
      [⟨x.clock, x.session.localDescription, y.outbox.drop x.outbox.length⟩] := rfl

theorem wait_look_eq_done_iff (x y : Rehearsal) (p : Pursuit) :
    (p.look x y).wait = .done ↔
      x.session.localDescription ≠ "" ∨ p.attempts - p.looks.length ≤ 1 := by
  by_cases hdone : x.session.localDescription ≠ "" ∨ p.attempts - p.looks.length ≤ 1
  · exact iff_of_true (if_pos hdone) hdone
  · refine iff_of_false ?_ hdone
    simp only [look, if_neg hdone]
    split_ifs <;> simp

/-- The pursuit after a look, if the job that runs in a turn is its own. -/
def look? (x : Rehearsal) (place : Nat) (p : Pursuit) : Option Pursuit :=
  if p.wait = .now ∧ x.ready[place]? = some p.job then some (p.look x (x.take (.job place)))
  else none

end Pursuit

namespace Rehearsal

variable {x y z : Rehearsal} {ledger : List Pursuit} {opened : List Nat}

/-- The ledger after a turn.  Of pursuits with the same job the first one has it. -/
def pursue (x : Rehearsal) (ledger : List Pursuit) : Turn → List Pursuit
  | .dispatch event =>
    ledger ++ (x.registry.dispatch event).1.filterMap (Pursuit.ofAction? x.retry.attempts)
  | .job place => ledger.replaceF (Pursuit.look? x place)
  | .wake time => ledger.map (Pursuit.wake time)
  | _ => ledger

/-- The ledger after several turns. -/
def pursueAll (x : Rehearsal) (ledger : List Pursuit) : List Turn → List Pursuit
  | [] => ledger
  | turn :: turns => (x.take turn).pursueAll (x.pursue ledger turn) turns

/-- The jobs that are to send offers are those of the pursuits in the ledger. -/
structure Balanced (x : Rehearsal) (ledger : List Pursuit) : Prop where
  ready : (x.ready.filter Job.isOffer).Perm (ledger.filterMap Pursuit.ready?)
  asleep : (x.sleeping.filter (·.2.isOffer)).Perm (ledger.filterMap Pursuit.asleep?)

/-! ## What other work leaves alone -/

/-- What is the same unless time passes. -/
structure Steady (x y : Rehearsal) : Prop where
  clock : y.clock = x.clock
  retry : y.retry = x.retry
  link : y.link = x.link

theorem Steady.refl (x : Rehearsal) : x.Steady x := ⟨rfl, rfl, rfl⟩

theorem Steady.trans (h : x.Steady y) (h' : y.Steady z) : x.Steady z :=
  ⟨h'.clock.trans h.clock, h'.retry.trans h.retry, h'.link.trans h.link⟩

/-- What is the same after work that has nothing to do with offers. -/
structure Aside (x y : Rehearsal) : Prop extends Steady x y where
  ready : y.ready.filter Job.isOffer = x.ready.filter Job.isOffer
  asleep : y.sleeping.filter (·.2.isOffer) = x.sleeping.filter (·.2.isOffer)

theorem Aside.refl (x : Rehearsal) : x.Aside x := ⟨.refl x, rfl, rfl⟩

theorem Aside.trans (h : x.Aside y) (h' : y.Aside z) : x.Aside z :=
  ⟨h.toSteady.trans h'.toSteady, h'.ready.trans h.ready, h'.asleep.trans h.asleep⟩

theorem Aside.after (h : x.Aside y) (delay : Nat) {job : Job} (hjob : job.isOffer = false) :
    x.Aside (y.after delay job) := by
  unfold Rehearsal.after
  split_ifs
  · exact h.trans ⟨⟨rfl, rfl, rfl⟩, by simp [hjob], rfl⟩
  · exact h.trans ⟨⟨rfl, rfl, rfl⟩, rfl, by simp [hjob]⟩

theorem Aside.release (h : x.Aside y) : x.Aside y.release := by
  unfold Rehearsal.release
  split
  · exact h.trans ⟨⟨rfl, rfl, rfl⟩, rfl, rfl⟩
  · exact h.trans ⟨⟨rfl, rfl, rfl⟩, by simp [Job.isOffer], rfl⟩

theorem Aside.finishReset (h : x.Aside y) : x.Aside y.finishReset :=
  Aside.release (h.trans ⟨⟨rfl, rfl, rfl⟩, rfl, rfl⟩)

theorem aside_beginReset (x : Rehearsal) : x.Aside x.beginReset := by
  rcases x.beginReset_cases with ⟨-, hbegin⟩ | ⟨-, -, hbegin⟩ | ⟨-, hbegin⟩ <;> rw [hbegin]
  · exact Aside.release ⟨⟨rfl, rfl, rfl⟩, rfl, rfl⟩
  · exact Aside.finishReset ⟨⟨rfl, rfl, rfl⟩, rfl, rfl⟩
  · refine Aside.after ?_ _ rfl
    exact ⟨⟨rfl, rfl, rfl⟩, rfl, rfl⟩

theorem aside_run {job : Job} (h : job.isOffer = false) (x : Rehearsal) : x.Aside (x.run job) := by
  cases job with
  | report place event => exact ⟨⟨rfl, rfl, rfl⟩, rfl, rfl⟩
  | reset =>
    rw [run]
    split_ifs
    · exact ⟨⟨rfl, rfl, rfl⟩, rfl, rfl⟩
    · exact x.aside_beginReset
  | granted => exact x.aside_beginReset
  | rebuild => exact (Aside.refl x).finishReset
  | offer => simp [Job.isOffer] at h

theorem steady_tryOffer (x : Rehearsal) (wire : Nat) (client : String) (attempts : Nat) :
    x.Steady (x.tryOffer wire client attempts) := by
  cases attempts with
  | zero => exact .refl x
  | succ attempts =>
    simp only [tryOffer]
    split_ifs
    · exact .refl x
    · exact ⟨rfl, rfl, rfl⟩
    · exact .refl x
    · unfold after
      split_ifs <;> exact ⟨rfl, rfl, rfl⟩

theorem steady_run (x : Rehearsal) (job : Job) : x.Steady (x.run job) := by
  cases job with
  | offer wire client attempts => exact x.steady_tryOffer wire client attempts
  | _ => exact (x.aside_run rfl).toSteady

theorem steady_perform (x : Rehearsal) (action : Action) : x.Steady (x.perform action) := by
  cases action with
  | answer sdp =>
    simp only [perform, applyAnswer]
    split <;> exact ⟨rfl, rfl, rfl⟩
  | _ => exact ⟨rfl, rfl, rfl⟩

theorem Steady.foldl_perform (h : x.Steady y) (actions : List Action) :
    x.Steady (actions.foldl perform y) := by
  induction actions generalizing y with
  | nil => exact h
  | cons action actions ih => exact ih (h.trans (y.steady_perform action))

/-- Only that time passes moves the clock. -/
theorem steady_take {turn : Turn} (h : ∀ time, turn ≠ .wake time) : x.Steady (x.take turn) := by
  cases turn with
  | dispatch event =>
    have hregistry : x.Steady { x with registry := (x.registry.dispatch event).2 } :=
      ⟨rfl, rfl, rfl⟩
    exact hregistry.foldl_perform _
  | job place =>
    cases hjob : x.ready[place]? with
    | none =>
      simp only [take, hjob]
      exact .refl x
    | some job =>
      rw [take_job hjob]
      have hwithout : x.Steady (x.without place) := ⟨rfl, rfl, rfl⟩
      exact hwithout.trans (steady_run _ job)
  | wake time => exact absurd rfl (h time)
  | _ => exact ⟨rfl, rfl, rfl⟩

theorem retry_take (x : Rehearsal) (turn : Turn) : (x.take turn).retry = x.retry := by
  cases turn with
  | wake time => rfl
  | _ => exact (steady_take (by simp)).retry

theorem retry_takeAll (x : Rehearsal) (turns : List Turn) : (x.takeAll turns).retry = x.retry := by
  induction turns generalizing x with
  | nil => rfl
  | cons turn turns ih => exact (ih (x.take turn)).trans (x.retry_take turn)

theorem link_take (x : Rehearsal) (turn : Turn) : (x.take turn).link = x.link := by
  cases turn with
  | wake time => rfl
  | _ => exact (steady_take (by simp)).link

/-- A device that hosts its viewers itself has joined no remote endpoint. -/
theorem Reachable.link (h : Reachable opened x) : x.link = none := by
  induction h with
  | start => rfl
  | turn _ turn _ ih => rw [link_take, ih]

/-! ## The ledger agrees with the jobs -/

theorem of_ready?_eq_some {p : Pursuit} {job : Job} (h : p.ready? = some job) :
    job.isOffer = true ∧ p.wait = .now ∧ p.job = job := by
  unfold Pursuit.ready? at h
  split at h
  · obtain rfl := Option.some.inj h
    exact ⟨rfl, ‹_›, rfl⟩
  · cases h

theorem offers_perform (x : Rehearsal) (action : Action) :
    (x.perform action).ready.filter Job.isOffer = x.ready.filter Job.isOffer ++
        ([action].filterMap (Pursuit.ofAction? x.retry.attempts)).filterMap Pursuit.ready? ∧
      (x.perform action).sleeping = x.sleeping := by
  cases action with
  | offer wire client =>
    simp [perform, Pursuit.ofAction?, Pursuit.ready?, Pursuit.job, Job.isOffer]
  | answer sdp =>
    simp only [perform, applyAnswer]
    split <;> simp [Pursuit.ofAction?, Job.isOffer]
  | viewerLeft client =>
    simp only [perform]
    split_ifs <;> simp [Pursuit.ofAction?, Job.isOffer]
  | _ => simp [perform, Pursuit.ofAction?, addCandidate]

/-- Every offer that signaling asks for becomes a job. -/
theorem offers_foldl_perform (x : Rehearsal) (actions : List Action) :
    (actions.foldl perform x).ready.filter Job.isOffer = x.ready.filter Job.isOffer ++
        (actions.filterMap (Pursuit.ofAction? x.retry.attempts)).filterMap Pursuit.ready? ∧
      (actions.foldl perform x).sleeping = x.sleeping := by
  induction actions generalizing x with
  | nil => simp
  | cons action actions ih =>
    obtain ⟨hready, hsleeping⟩ := x.offers_perform action
    obtain ⟨hrest, hlater⟩ := ih (x.perform action)
    rw [(x.steady_perform action).retry] at hrest
    refine ⟨?_, hlater.trans hsleeping⟩
    rw [List.foldl_cons, hrest, hready, List.append_assoc, ← List.filterMap_append,
      ← List.filterMap_append, List.singleton_append]

theorem asleep?_ofAction? (attempts : Nat) (actions : List Action) :
    (actions.filterMap (Pursuit.ofAction? attempts)).filterMap Pursuit.asleep? = [] := by
  rw [List.filterMap_filterMap, List.filterMap_eq_nil_iff]
  intro action _
  cases action <;> rfl

/-- What is left of a pursuit after a look is what the job leaves to be done. -/
theorem queues_tryOffer (x y : Rehearsal) (p : Pursuit) :
    (x.tryOffer p.wire p.client (p.attempts - p.looks.length)).ready =
        (p.look x y).ready?.toList ++ x.ready ∧
      (x.tryOffer p.wire p.client (p.attempts - p.looks.length)).sleeping =
        x.sleeping ++ (p.look x y).asleep?.toList := by
  cases hleft : p.attempts - p.looks.length with
  | zero => simp [tryOffer, Pursuit.look, Pursuit.ready?, Pursuit.asleep?, hleft]
  | succ left =>
    have hjob : (p.look x y).job = .offer p.wire p.client left := by
      have hlength : (p.look x y).looks.length = p.looks.length + 1 := by simp
      have hless : p.attempts - (p.looks.length + 1) = left := by omega
      rw [Pursuit.job, hlength]
      exact congrArg (Job.offer p.wire p.client) hless
    rw [tryOffer]
    by_cases hfound : x.session.localDescription = ""
    · have hnone : (p.look x y).wait =
          if left = 0 then .done
          else if x.retry.delay = 0 then .now
          else .later (x.clock + x.retry.delay) := by
        simp [Pursuit.look, hfound, hleft]
      by_cases hlast : left = 0
      · simp [Pursuit.ready?, Pursuit.asleep?, hnone, hfound, hlast]
      · by_cases hdelay : x.retry.delay = 0 <;>
          simp [Pursuit.ready?, Pursuit.asleep?, hnone, hfound, hlast, hdelay, after, hjob]
    · have hdone := (Pursuit.wait_look_eq_done_iff x y p).mpr (.inl hfound)
      cases x.isHeard <;> simp [Pursuit.ready?, Pursuit.asleep?, hdone, hfound]

theorem Balanced.dispatch (h : x.Balanced ledger) (event : WireEvent) :
    (x.take (.dispatch event)).Balanced (x.pursue ledger (.dispatch event)) := by
  obtain ⟨hready, hsleeping⟩ := offers_foldl_perform
    { x with registry := (x.registry.dispatch event).2 } (x.registry.dispatch event).1
  refine ⟨?_, ?_⟩
  · rw [take, pursue, hready, List.filterMap_append]
    exact h.ready.append_right _
  · rw [take, pursue, hsleeping, List.filterMap_append, asleep?_ofAction?, List.append_nil]
    exact h.asleep

theorem asleep?_wake (time : Nat) (p : Pursuit) :
    (p.wake time).asleep? = p.asleep?.filter fun entry ↦ decide (time < entry.1) := by
  unfold Pursuit.wake Pursuit.asleep?
  cases p.wait with
  | later due =>
    by_cases hdue : due ≤ time
    · simp [hdue, Option.filter]
    · simp [hdue, Option.filter, Nat.lt_of_not_le hdue, Pursuit.job]
  | _ => rfl

/-- The jobs that can run after some time are those that could before, and those that are due. -/
theorem ready?_wake_perm (time : Nat) (ledger : List Pursuit) :
    ((ledger.map (Pursuit.wake time)).filterMap Pursuit.ready?).Perm
      (ledger.filterMap Pursuit.ready? ++
        ((ledger.filterMap Pursuit.asleep?).filter fun entry ↦ decide (entry.1 ≤ time)).map
          (·.2)) := by
  induction ledger with
  | nil => exact .refl []
  | cons p rest ih =>
    rw [List.map_cons]
    cases hwait : p.wait with
    | now =>
      have hready : p.ready? = some p.job := by simp only [Pursuit.ready?, hwait]
      have hawake : (p.wake time).ready? = some p.job := by
        simp only [Pursuit.ready?, Pursuit.wake, hwait, Pursuit.job]
      have hasleep : p.asleep? = none := by simp only [Pursuit.asleep?, hwait]
      rw [List.filterMap_cons_some hawake, List.filterMap_cons_some hready,
        List.filterMap_cons_none hasleep]
      exact ih.cons p.job
    | later due =>
      have hready : p.ready? = none := by simp only [Pursuit.ready?, hwait]
      have hasleep : p.asleep? = some (due, p.job) := by simp only [Pursuit.asleep?, hwait]
      rw [List.filterMap_cons_none hready, List.filterMap_cons_some hasleep]
      by_cases hdue : due ≤ time
      · have hawake : (p.wake time).ready? = some p.job := by
          simp only [Pursuit.ready?, Pursuit.wake, hwait, if_pos hdue, Pursuit.job]
        rw [List.filterMap_cons_some hawake, List.filter_cons_of_pos (by simpa using hdue),
          List.map_cons]
        exact (ih.cons p.job).trans List.perm_middle.symm
      · have hawake : (p.wake time).ready? = none := by
          simp only [Pursuit.ready?, Pursuit.wake, hwait, if_neg hdue]
        rw [List.filterMap_cons_none hawake, List.filter_cons_of_neg (by simpa using hdue)]
        exact ih
    | done =>
      have hready : p.ready? = none := by simp only [Pursuit.ready?, hwait]
      have hawake : (p.wake time).ready? = none := by
        simp only [Pursuit.ready?, Pursuit.wake, hwait]
      have hasleep : p.asleep? = none := by simp only [Pursuit.asleep?, hwait]
      rw [List.filterMap_cons_none hawake, List.filterMap_cons_none hready,
        List.filterMap_cons_none hasleep]
      exact ih

theorem Balanced.wake (h : x.Balanced ledger) (time : Nat) :
    (x.take (.wake time)).Balanced (x.pursue ledger (.wake time)) := by
  refine ⟨?_, ?_⟩
  · refine List.Perm.trans ?_ (ready?_wake_perm time ledger).symm
    have hdue : (((x.sleeping.filter fun entry ↦ decide (entry.1 ≤ time)).map (·.2)).filter
        Job.isOffer) = ((x.sleeping.filter (·.2.isOffer)).filter
          fun entry ↦ decide (entry.1 ≤ time)).map (·.2) := by
      rw [List.filter_map, List.filter_filter, List.filter_filter]
      simp only [Function.comp_apply, Bool.and_comm]
    rw [take, Rehearsal.wake, List.filter_append, hdue]
    exact h.ready.append ((h.asleep.filter _).map _)
  · have hlater : (ledger.map (Pursuit.wake time)).filterMap Pursuit.asleep? =
        (ledger.filterMap Pursuit.asleep?).filter fun entry ↦ decide (time < entry.1) := by
      rw [List.filterMap_map, List.filter_filterMap]
      exact congrArg (ledger.filterMap ·) (funext fun p ↦ asleep?_wake time p)
    rw [take, Rehearsal.wake, pursue, hlater, List.filter_filter]
    simp only [Bool.and_comm]
    rw [← List.filter_filter]
    exact h.asleep.filter _

theorem perm_without {place : Nat} {job : Job} (h : x.ready[place]? = some job) :
    x.ready.Perm (job :: (x.without place).ready) := by
  obtain ⟨hplace, rfl⟩ := List.getElem?_eq_some_iff.mp h
  exact (List.getElem_cons_eraseIdx_perm hplace).symm

/-- Which pursuit a job belongs to that runs, if any. -/
theorem pursue_job_cases (x : Rehearsal) (ledger : List Pursuit) (place : Nat) :
    (∀ p ∈ ledger, ∀ job, p.ready? = some job → x.ready[place]? ≠ some job) ∧
        x.pursue ledger (.job place) = ledger ∨
      ∃ before p rest, ledger = before ++ p :: rest ∧ p.wait = .now ∧
        x.ready[place]? = some p.job ∧
        x.pursue ledger (.job place) = before ++ p.look x (x.take (.job place)) :: rest := by
  by_cases hmatch : ∃ p ∈ ledger, p.wait = .now ∧ x.ready[place]? = some p.job
  · obtain ⟨p, hp, hlooks⟩ := hmatch
    have hlook : p.look? x place = some (p.look x (x.take (.job place))) := if_pos hlooks
    obtain ⟨q, looked, before, rest, -, hlooked, hledger, hpursue⟩ :=
      List.exists_of_replaceF hp hlook
    obtain ⟨⟨hnow, hjob⟩, hlooked⟩ := Option.ite_none_right_eq_some.mp hlooked
    obtain rfl := Option.some.inj hlooked
    exact .inr ⟨before, q, rest, hledger, hnow, hjob, hpursue⟩
  · have hnone : ∀ p ∈ ledger, p.look? x place = none := fun p hp ↦
      if_neg fun hlooks ↦ hmatch ⟨p, hp, hlooks⟩
    refine .inl ⟨?_, List.replaceF_of_forall_none hnone⟩
    intro p hp job hready hjob
    obtain ⟨-, hnow, rfl⟩ := of_ready?_eq_some hready
    exact hmatch ⟨p, hp, hnow, hjob⟩

theorem filterMap_middle_perm {α β : Type} (f : α → Option β) (before rest : List α) (a : α) :
    ((before ++ a :: rest).filterMap f).Perm ((f a).toList ++ (before ++ rest).filterMap f) := by
  refine (List.perm_middle.filterMap f).trans ?_
  cases ha : f a with
  | none => rw [List.filterMap_cons_none ha, Option.toList_none, List.nil_append]
  | some b => rw [List.filterMap_cons_some ha, Option.toList_some, List.singleton_append]

theorem filter_ready? (p : Pursuit) : p.ready?.toList.filter Job.isOffer = p.ready?.toList := by
  unfold Pursuit.ready?
  split <;> rfl

theorem filter_asleep? (p : Pursuit) :
    p.asleep?.toList.filter (·.2.isOffer) = p.asleep?.toList := by
  unfold Pursuit.asleep?
  split <;> rfl

theorem Balanced.job (h : x.Balanced ledger) (place : Nat) :
    (x.take (.job place)).Balanced (x.pursue ledger (.job place)) := by
  rcases x.pursue_job_cases ledger place with ⟨hnone, hpursue⟩ |
    ⟨before, p, rest, rfl, hnow, hjob, hpursue⟩ <;> rw [hpursue]
  · cases hjob : x.ready[place]? with
    | none => simpa only [take, hjob] using h
    | some job =>
      -- It is no offer, for all of them belong to pursuits.
      have hother : job.isOffer = false := by
        by_contra hoffer
        have hmem : job ∈ x.ready.filter Job.isOffer :=
          List.mem_filter.mpr ⟨List.mem_of_getElem? hjob, by simpa using hoffer⟩
        obtain ⟨p, hp, hready⟩ := List.mem_filterMap.mp (h.ready.mem_iff.mp hmem)
        exact hnone p hp job hready hjob
      have haside := (x.without place).aside_run hother
      have hwithout := (perm_without hjob).filter Job.isOffer
      rw [List.filter_cons_of_neg (by simp [hother])] at hwithout
      rw [take_job hjob]
      change ((x.without place).run job).Balanced ledger
      refine ⟨?_, ?_⟩
      · rw [haside.ready]
        exact hwithout.symm.trans h.ready
      · rw [haside.asleep]
        exact h.asleep
  · have hready : p.ready? = some p.job := by simp only [Pursuit.ready?, hnow]
    have hasleep : p.asleep? = none := by simp only [Pursuit.asleep?, hnow]
    -- Without the job that runs, the rest of the ledger has the rest of the jobs.
    have hrest : ((x.without place).ready.filter Job.isOffer).Perm
        ((before ++ rest).filterMap Pursuit.ready?) := by
      have hperm := ((perm_without hjob).filter Job.isOffer).symm.trans
        (h.ready.trans (filterMap_middle_perm _ before rest p))
      rw [hready] at hperm
      exact hperm.cons_inv
    have hlater : (x.sleeping.filter (·.2.isOffer)).Perm
        ((before ++ rest).filterMap Pursuit.asleep?) := by
      have hperm := h.asleep.trans (filterMap_middle_perm _ before rest p)
      rwa [hasleep] at hperm
    obtain ⟨hready, hsleeping⟩ := queues_tryOffer (x.without place) (x.take (.job place)) p
    have htake : x.take (.job place) =
        (x.without place).tryOffer p.wire p.client (p.attempts - p.looks.length) := take_job hjob
    refine ⟨List.Perm.trans ?_ (filterMap_middle_perm _ _ _ _).symm,
      List.Perm.trans ?_ (filterMap_middle_perm _ _ _ _).symm⟩
    · rw [← htake] at hready
      rw [hready, List.filter_append, filter_ready?]
      exact hrest.append_left _
    · rw [← htake] at hsleeping
      rw [hsleeping, List.filter_append, filter_asleep?]
      exact List.perm_append_comm.trans (hlater.append_left _)

theorem Balanced.take (h : x.Balanced ledger) (turn : Turn) :
    (x.take turn).Balanced (x.pursue ledger turn) := by
  cases turn with
  | dispatch event => exact h.dispatch event
  | job place => exact h.job place
  | wake time => exact h.wake time
  | _ => exact ⟨h.ready, h.asleep⟩

theorem Balanced.takeAll (h : x.Balanced ledger) (turns : List Turn) :
    (x.takeAll turns).Balanced (x.pursueAll ledger turns) := by
  induction turns generalizing x ledger with
  | nil => exact h
  | cons turn turns ih => exact ih (h.take turn)

/-- Every rehearsal has a ledger. -/
theorem Reachable.exists_balanced (h : Reachable opened x) : ∃ ledger, x.Balanced ledger := by
  induction h with
  | start => exact ⟨[], .refl [], .refl []⟩
  | turn _ turn _ ih =>
    obtain ⟨ledger, hledger⟩ := ih
    exact ⟨_, hledger.take turn⟩

end Rehearsal

end LiveCamera
