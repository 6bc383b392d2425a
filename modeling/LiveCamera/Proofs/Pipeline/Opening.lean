import LiveCamera.Proofs.Pipeline.Forwarding

/-!
# What a stream opens with

A stream begins with an access unit that decoding can start with, and `Round.isStart` finds the
round in which it does.  A viewer who leaves between being asked for the first and for the second
time in that very round is not sent that access unit, and the stream has begun all the same.  So
`first_sent` finds what is sent first from there on, wherever a viewer is still there.
-/

namespace LiveCamera.Pipeline

namespace Round

/-- Whether something was sent to the viewer. -/
def isSending (r : Round) : Bool := !r.sent.isEmpty

/-- Whether there was an access unit, and a viewer to send it to. -/
def isDeliverable (r : Round) : Bool := r.isStillOpen && !r.taken.isEmpty

variable {r : Round} {before after : Bool}

/-- Only a stream that has begun is sent. -/
theorem Passes.isSending_eq (h : r.Passes before after) :
    r.isSending = ((before || r.isStart) && r.isDeliverable) := by
  have hnone : r.sent.isEmpty = (r.sent.map Prod.fst).isEmpty := by simp
  rw [isSending, hnone, h.sent, isDeliverable, ← Bool.and_assoc]
  cases (before || r.isStart) && r.isStillOpen <;> simp

theorem Passes.exists_taken_eq (h : r.Passes before after) (htaken : r.taken ≠ []) :
    ∃ unit, r.taken = [unit] :=
  List.length_eq_one_iff.mp (Nat.le_antisymm h.taken (List.length_pos_iff.mpr htaken))

theorem Passes.exists_of_isSending (h : r.Passes before after) (hsending : r.isSending = true) :
    ∃ unit time, r.taken = [unit] ∧ r.sent = [(unit.concat, time)] := by
  rw [h.isSending_eq, isDeliverable, ← Bool.and_assoc, Bool.and_eq_true] at hsending
  obtain ⟨hbegun, htaken⟩ := hsending
  obtain ⟨unit, hunit⟩ := h.exists_taken_eq (by simpa using htaken)
  have hsent := h.sent
  rw [if_pos hbegun, hunit] at hsent
  obtain ⟨⟨data, time⟩, hpair, hdata⟩ := List.map_eq_singleton_iff.mp hsent
  exact ⟨unit, time, hunit, hdata ▸ hpair⟩

theorem Passes.exists_of_isStart (h : r.Passes before after) (hstart : r.isStart = true) :
    ∃ unit, r.taken = [unit] ∧ 1 < unit.count := by
  obtain ⟨unit, hmem, hcount⟩ := List.any_eq_true.mp hstart
  obtain ⟨other, hother⟩ := h.exists_taken_eq (List.ne_nil_of_mem hmem)
  obtain rfl : unit = other := by simpa [hother] using hmem
  exact ⟨unit, hother, of_decide_eq_true hcount⟩

end Round

namespace Outlook

variable (o : Outlook)

/-- The round in which something is sent first. -/
theorem find?_isSending_rounds (n : Nat) :
    (o.rounds n).find? Round.isSending =
      ((o.rounds n).dropWhile fun r ↦ !(o.hasBegun || r.isStart)).find? Round.isDeliverable := by
  induction n generalizing o with
  | zero => rfl
  | succ n ih =>
    have hround := o.passes
    rw [rounds, List.find?_cons, hround.isSending_eq, ih, hround.begun, List.dropWhile_cons]
    cases hbegun : o.hasBegun || o.next.1.isStart with
    | false =>
      obtain ⟨hbefore, -⟩ := Bool.or_eq_false_iff.mp hbegun
      simp [hbefore]
    | true =>
      rw [Round.dropWhile_begun, Bool.true_and]
      exact List.find?_cons.symm

end Outlook

namespace Script

/-- What a worker sends first.  Nothing is sent before the first round in which an access unit was
taken that decoding can start with.  From that round on, the first access unit taken while the
viewer still accepted video when it was asked for the second time is the one that is sent first, and
it is all that is sent in its round.  So the stream opens with the access unit that it began with
if, and only if, the viewer was still there for that one. -/
theorem first_sent (s : Script) (n : Nat) :
    let rounds := s.rounds n
    let first := rounds.find? Round.isSending
    (Worker.run stations n (.fresh, s)).2.log = rounds.foldl (· ++ ·) s.log ∧
      first = (rounds.dropWhile (!·.isStart)).find? Round.isDeliverable ∧
      (∀ round, first = some round →
        ∃ unit time, round.taken = [unit] ∧ round.sent = [(unit.concat, time)]) ∧
      ∀ start, rounds.find? (·.isStart) = some start →
        ∃ unit, start.taken = [unit] ∧ 1 < unit.count ∧
          (first = some start ↔ start.isStillOpen = true) := by
  intro rounds first
  let outlook := (state (.fresh, s)).1
  have hrounds : rounds = outlook.rounds n := roundsFrom_eq n (.fresh, s)
  have hpasses {round : Round} (h : round ∈ rounds) : ∃ before after, round.Passes before after :=
    outlook.exists_passes_of_mem_rounds (hrounds ▸ h)
  have hfirst : first = (rounds.dropWhile (!·.isStart)).find? Round.isDeliverable := by
    have hfresh : outlook.hasBegun = false := rfl
    have hfind := outlook.find?_isSending_rounds n
    rw [← hrounds, hfresh] at hfind
    simpa only [Bool.false_or] using hfind
  refine ⟨log_run n (.fresh, s), hfirst, ?_, ?_⟩
  · intro round hround
    obtain ⟨_, _, hpassed⟩ := hpasses (List.mem_of_find?_eq_some hround)
    exact hpassed.exists_of_isSending (List.find?_some hround)
  · intro start hstart
    obtain ⟨_, _, hpassed⟩ := hpasses (List.mem_of_find?_eq_some hstart)
    obtain ⟨unit, htaken, hcount⟩ := hpassed.exists_of_isStart (List.find?_some hstart)
    refine ⟨unit, htaken, hcount, ?_⟩
    have hdeliverable : start.isDeliverable = start.isStillOpen := by
      simp [Round.isDeliverable, htaken]
    constructor
    · intro h
      rw [hfirst] at h
      exact hdeliverable ▸ List.find?_some h
    · intro h
      -- The rounds from the start on begin with the start.
      rw [List.find?_eq_head?_dropWhile_not] at hstart
      obtain ⟨later, hlater⟩ := List.head?_eq_some_iff.mp hstart
      rw [hfirst, hlater]
      exact List.find?_cons_of_pos (hdeliverable.trans h)

/-- A viewer who looks away for the access unit that a stream begins with is first sent one that
decoding cannot start with. -/
theorem not_always_start_first :
    ¬∀ (s : Script) (n : Nat) (round : Round), (s.rounds n).find? Round.isSending = some round →
      ∀ unit ∈ round.taken, 1 < unit.count := by
  intro h
  let s : Script := ⟨[true, false, true, true], [],
    [.ok (some ⟨[[1], [2]]⟩), .ok (some ⟨[[3]]⟩)], [], [], none, [], [], [], false, [], []⟩
  have hfirst : (s.rounds 2).find? Round.isSending =
      some ⟨[true, true], [⟨[[3]]⟩], [([3], 0)], []⟩ := by decide
  exact absurd (h s 2 _ hfirst ⟨[[3]]⟩ (List.mem_singleton_self _)) (by decide)

end Script

end LiveCamera.Pipeline
