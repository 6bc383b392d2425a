import LiveCamera.Proofs.Session.Operations
import LiveCamera.Proofs.Signaling.Registration
import LiveCamera.Rehearsal.Steps

/-!
# Turns

The device as it really runs: signaling handles one event at a time, and the work that goes on by
itself takes its turns in between, in whatever order.  A `Turn` is one thing that happens, without
what follows from it, and `Reachable` lists the rehearsals that any turns lead to.  The order in
which a rehearsal runs its jobs is one of many (`Reachable.dispatch`).
-/

namespace LiveCamera

open Signaling

/-- One thing that happens. -/
inductive Turn
  /-- Signaling handles what happened on the wire. -/
  | dispatch (event : WireEvent)
  /-- The endpoint stops. -/
  | stop
  /-- One of the jobs that can run does. -/
  | job (place : Nat)
  /-- Time passes. -/
  | wake (time : Nat)
  /-- A connection reports something. -/
  | report (place : Nat) (event : TransportEvent)
  /-- The local description of a connection becomes another one. -/
  | describe (place : Nat) (sdp : String)
  /-- The transport works differently from now on. -/
  | follow (script : TransportScript)

/-- The wire connections that a turn opens. -/
def Turn.opened : Turn → List Nat
  | dispatch (.connected wire _) => [wire]
  | _ => []

namespace Rehearsal

/-- The rehearsal after one turn. -/
def take (x : Rehearsal) : Turn → Rehearsal
  | .dispatch event =>
    (x.registry.dispatch event).1.foldl perform
      { x with registry := (x.registry.dispatch event).2 }
  | .stop => x.stopEndpoint
  | .job place =>
    match x.ready[place]? with
    | none => x
    | some job => ({ x with ready := x.ready.eraseIdx place } : Rehearsal).run job
  | .wake time => x.wake time
  | .report place event => { x with session := x.session.report place event }
  | .describe place sdp => x.setLocalDescription place sdp
  | .follow script => { x with script }

/-- The rehearsal after several turns. -/
def takeAll (x : Rehearsal) (turns : List Turn) : Rehearsal := turns.foldl take x

/-- The rehearsals that come about while wire connections are opened, none of them twice.  The
session may have been used before. -/
inductive Reachable : List Nat → Rehearsal → Prop
  | start (script : TransportScript) (config : SessionConfig) (journal : List StreamEvent)
      (operations : List Session.Operation) (retry : DescriptionRetry)
      (resetsForNextViewer : Bool) :
      Reachable [] ((new script config retry resetsForNextViewer).withSession
        ((Session.new config journal).run operations))
  | turn {opened : List Nat} {x : Rehearsal} (h : Reachable opened x) (turn : Turn)
      (hnew : ∀ wire ∈ turn.opened, wire ∉ opened) : Reachable (turn.opened ++ opened) (x.take turn)

variable {x : Rehearsal} {opened : List Nat}

theorem take_job {place : Nat} {job : Job} (h : x.ready[place]? = some job) :
    x.take (.job place) = ({ x with ready := x.ready.eraseIdx place } : Rehearsal).run job := by
  simp only [take, h]

/-- Any turns may follow in which no wire connection is opened again. -/
theorem Reachable.takeAll (h : Reachable opened x) (turns : List Turn)
    (hnew : (turns.flatMap Turn.opened ++ opened).Nodup) :
    ∃ opened, Reachable opened (x.takeAll turns) := by
  induction turns generalizing x opened with
  | nil => exact ⟨opened, h⟩
  | cons turn turns ih =>
    rw [List.flatMap_cons, List.append_assoc] at hnew
    obtain ⟨-, -, hdistinct⟩ := List.nodup_append.mp hnew
    refine ih (h.turn turn ?_) ((List.perm_append_comm_assoc _ _ _).nodup_iff.mp hnew)
    intro wire hwire hopened
    exact hdistinct wire hwire wire (List.mem_append_right _ hopened) rfl

/-! ## The order of a rehearsal -/

theorem Reachable.runUntil (h : Reachable opened x) (done : Rehearsal → Bool)
    (limit : Option Nat) (fuel : Nat) : Reachable opened (Rehearsal.runUntil done limit fuel x) := by
  induction fuel generalizing x with
  | zero => exact h
  | succ fuel ih =>
    rw [Rehearsal.runUntil]
    split
    · rename_i job rest hready
      have hjob : x.take (.job 0) = ({ x with ready := rest } : Rehearsal).run job := by
        have hfirst : x.ready[0]? = some job := by rw [hready]; rfl
        rw [take_job hfirst, hready]
        rfl
      exact ih (hjob ▸ h.turn (.job 0) (by simp [Turn.opened]))
    · split_ifs
      · exact h
      · split
        · exact h
        · split_ifs
          · exact h
          · exact ih (h.turn (.wake _) (by simp [Turn.opened]))

/-- Whatever becomes of a rehearsal in which something happens on the wire. -/
theorem Reachable.dispatch (h : Reachable opened x) (event : WireEvent)
    (hnew : ∀ wire ∈ (Turn.dispatch event).opened, wire ∉ opened) :
    Reachable ((Turn.dispatch event).opened ++ opened) (x.dispatch event) :=
  (h.turn (.dispatch event) hnew).runUntil _ _ _

/-! ## The registry -/

@[simp]
theorem registry_after (x : Rehearsal) (delay : Nat) (job : Job) :
    (x.after delay job).registry = x.registry := by
  unfold after
  split_ifs <;> rfl

@[simp]
theorem registry_release (x : Rehearsal) : x.release.registry = x.registry := by
  unfold release
  split <;> rfl

@[simp]
theorem registry_finishReset (x : Rehearsal) : x.finishReset.registry = x.registry := by
  simp [finishReset, withSession, noteLimits]

@[simp]
theorem registry_beginReset (x : Rehearsal) : x.beginReset.registry = x.registry := by
  unfold beginReset
  dsimp only
  split_ifs <;> simp

@[simp]
theorem registry_tryOffer (x : Rehearsal) (wire : Nat) (client : String) (attempts : Nat) :
    (x.tryOffer wire client attempts).registry = x.registry := by
  cases attempts with
  | zero => rfl
  | succ attempts =>
    simp only [tryOffer]
    split_ifs <;> simp

@[simp]
theorem registry_run (x : Rehearsal) (job : Job) : (x.run job).registry = x.registry := by
  cases job with
  | reset =>
    rw [run]
    split_ifs <;> simp
  | _ => simp [run]

@[simp]
theorem registry_perform (x : Rehearsal) (action : Action) :
    (x.perform action).registry = x.registry := by
  cases action with
  | answer sdp =>
    simp only [perform, applyAnswer]
    split <;> rfl
  | _ => rfl

@[simp]
theorem registry_foldl_perform (x : Rehearsal) (actions : List Action) :
    (actions.foldl perform x).registry = x.registry := by
  induction actions generalizing x with
  | nil => rfl
  | cons action actions ih => rw [List.foldl_cons, ih, registry_perform]

/-- Only events on the wire and the end of the endpoint touch the registry. -/
theorem registry_take (x : Rehearsal) (turn : Turn) :
    (x.take turn).registry =
      match turn with
      | .dispatch event => (x.registry.dispatch event).2
      | .stop => .empty
      | _ => x.registry := by
  cases turn with
  | dispatch event => simp [take]
  | job place =>
    simp only [take]
    split
    · rfl
    · exact registry_run _ _
  | _ => rfl

theorem Reachable.registry (h : Reachable opened x) : Registry.Reachable opened x.registry := by
  induction h with
  | start => exact .empty
  | turn _ turn hnew ih =>
    rw [registry_take]
    cases turn with
    | dispatch event =>
      cases event with
      | connected wire path => exact ih.connected (hnew wire (by simp [Turn.opened])) path
      | message wire text => exact ih.message wire text
      | disconnected wire => exact ih.disconnected wire
    | stop => exact ih.stopped
    | _ => exact ih

end Rehearsal

end LiveCamera
