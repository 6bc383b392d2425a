import LiveCamera.Throttle
import Mathlib.Algebra.GroupWithZero.Nat
import Mathlib.Data.List.DropRight
import Mathlib.Data.List.Induction
import Mathlib.Tactic.SplitIfs

/-!
# No line is lost in the count

A throttle keeps one entry for each sort of line.  `verdict` says what a check is answered by
looking back at the answers before it: at the last line that was let through, and at the lines held
back since.  `judged_replies` shows that the entries come to the same, and the count, the distances
in time and the first answer are read off from there (`nothing_lost`).
-/

namespace LiveCamera.Throttle

/-! ## Calls and their answers -/

/-- What is asked of a throttle; a check comes with its time. -/
inductive Call
  | check (now : Nat) (key : String)
  | clear (key : String)
  | clearAll

/-- The answer to a check: with a count the line is let through, without one it is held back. -/
structure Reply where
  time : Nat
  count : Option Nat
  deriving DecidableEq

/-- The line was let through. -/
def Reply.passed (r : Reply) : Bool := r.count.isSome

/-- The line was held back. -/
def Reply.held (r : Reply) : Bool := r.count.isNone

def take (t : Throttle) : Call → Throttle
  | .check now key => (t.check now key).2
  | .clear key => t.clear key
  | .clearAll => t.clearAll

def takeAll (t : Throttle) (calls : List Call) : Throttle := calls.foldl take t

namespace Call

/-- The time of a check. -/
def time? : Call → Option Nat
  | check now _ => some now
  | _ => none

/-- Whether the call is a check of that sort of line. -/
def checks (key : String) : Call → Bool
  | check _ other => other == key
  | _ => false

/-- Whether the call makes the throttle forget that sort of line. -/
def clears (key : String) : Call → Bool
  | check .. => false
  | clear other => other == key
  | clearAll => true

/-- Whether the call is about that sort of line, perhaps among others. -/
def concerns (key : String) : Call → Bool
  | check _ other => other == key
  | clear other => other == key
  | clearAll => true

end Call

/-- The answer for a sort of line, if the call asks for one. -/
def reply? (t : Throttle) (key : String) : Call → Option Reply
  | .check now other => if other = key then some ⟨now, (t.check now key).1⟩ else none
  | _ => none

/-- The answers for a sort of line. -/
def replies (t : Throttle) (key : String) : List Call → List Reply
  | [] => []
  | call :: calls => (t.reply? key call).toList ++ (t.take call).replies key calls

/-- The lines of a sort that were held back and not reported yet. -/
def pending (t : Throttle) (key : String) : Nat := (t.find? key).elim 0 (·.suppressed)

variable {t u : Throttle} {key other : String}

@[simp]
theorem takeAll_nil (t : Throttle) : t.takeAll [] = t := rfl

@[simp]
theorem takeAll_cons (t : Throttle) (call : Call) (calls : List Call) :
    t.takeAll (call :: calls) = (t.take call).takeAll calls := rfl

theorem replies_append (t : Throttle) (key : String) (calls later : List Call) :
    t.replies key (calls ++ later) =
      t.replies key calls ++ (t.takeAll calls).replies key later := by
  induction calls generalizing t with
  | nil => rfl
  | cons call calls ih => simp only [List.cons_append, replies, ih, takeAll_cons, List.append_assoc]

theorem isSome_reply? (t : Throttle) (key : String) (call : Call) :
    (t.reply? key call).isSome = call.checks key := by
  cases call with
  | check now other => by_cases h : other = key <;> simp [reply?, Call.checks, h]
  | clear _ => rfl
  | clearAll => rfl

/-- Every check is answered. -/
theorem length_replies (t : Throttle) (key : String) (calls : List Call) :
    (t.replies key calls).length = calls.countP (·.checks key) := by
  induction calls generalizing t with
  | nil => rfl
  | cons call calls ih =>
    rw [replies, List.length_append, ih, List.countP_cons, Nat.add_comm, ← t.isSome_reply? key call]
    cases t.reply? key call <;> rfl

/-- The answers come at the times of the checks. -/
theorem times_replies_sublist (t : Throttle) (key : String) (calls : List Call) :
    ((t.replies key calls).map (·.time)).Sublist (calls.filterMap (·.time?)) := by
  induction calls generalizing t with
  | nil => exact List.Sublist.slnil
  | cons call calls ih =>
    rw [replies, List.map_append]
    cases call with
    | check now other =>
      have htimes : (Call.check now other :: calls).filterMap (·.time?) =
          now :: calls.filterMap (·.time?) := rfl
      rw [htimes]
      by_cases h : other = key
      · simpa [reply?, h] using (ih _).cons_cons now
      · simpa [reply?, h] using (ih _).cons now
    | clear _ => exact ih _
    | clearAll => exact ih _

/-! ## One sort of line at a time -/

theorem find?_put (t : Throttle) (entry : ThrottleEntry) (key : String) :
    (t.put entry).find? key =
      if entry.key = key then (t.find? key).map fun _ ↦ entry else t.find? key := by
  unfold find? put
  induction t.entries with
  | nil => simp
  | cons first rest ih =>
    rw [List.map_cons]
    by_cases hfound : first.key = key
    · by_cases hentry : entry.key = key
      · simp [hfound, hentry]
      · simp [hfound, hentry, Ne.symm hentry]
    · have hreplaced : (if first.key = entry.key then entry else first).key ≠ key := by
        split_ifs with hsame
        · exact hsame ▸ hfound
        · exact hfound
      rw [List.find?_cons_of_neg (by simpa using hreplaced),
        List.find?_cons_of_neg (by simpa using hfound), ih]

theorem key_of_find? {entry : ThrottleEntry} (h : t.find? key = some entry) : entry.key = key := by
  simpa using List.find?_some h

@[simp]
theorem interval_take (t : Throttle) (call : Call) : (t.take call).interval = t.interval := by
  cases call with
  | check now key =>
    simp only [take, check]
    split
    · rfl
    · split <;> rfl
  | clear _ => rfl
  | clearAll => rfl

theorem interval_takeAll (t : Throttle) (calls : List Call) :
    (t.takeAll calls).interval = t.interval := by
  induction calls generalizing t with
  | nil => rfl
  | cons call calls ih => rw [takeAll_cons, ih, interval_take]

/-- The first line of a sort is let through. -/
theorem check_of_unknown (h : t.find? key = none) (now : Nat) :
    (t.check now key).1 = some 0 ∧ (t.check now key).2.find? key = some ⟨key, now, 0⟩ := by
  have hcheck : t.check now key = (some 0, { t with entries := t.entries ++ [⟨key, now, 0⟩] }) := by
    simp only [check, h]
  rw [hcheck]
  unfold find? at h ⊢
  simp [List.find?_append, h]

/-- A line that comes too soon is held back and counted. -/
theorem check_of_recent {entry : ThrottleEntry} {now : Nat} (h : t.find? key = some entry)
    (hrecent : now - entry.last < t.interval) :
    (t.check now key).1 = none ∧
      (t.check now key).2.find? key = some { entry with suppressed := entry.suppressed + 1 } := by
  simp [check, h, hrecent, find?_put, key_of_find? h]

/-- A line that comes late enough is let through and reports the count. -/
theorem check_of_due {entry : ThrottleEntry} {now : Nat} (h : t.find? key = some entry)
    (hdue : t.interval ≤ now - entry.last) :
    (t.check now key).1 = some entry.suppressed ∧
      (t.check now key).2.find? key = some ⟨key, now, 0⟩ := by
  simp [check, h, Nat.not_lt.mpr hdue, find?_put]

/-- What is known about a sort of line does not change by checks of others. -/
theorem find?_check_of_ne (t : Throttle) (now : Nat) (h : other ≠ key) :
    (t.check now other).2.find? key = t.find? key := by
  cases hother : t.find? other with
  | none =>
    simp only [check, hother]
    simp [find?, List.find?_append, h]
  | some entry =>
    have hentry : entry.key ≠ key := key_of_find? hother ▸ h
    simp only [check, hother]
    split <;> simp [find?_put, hentry, h]

theorem find?_clear (t : Throttle) (other key : String) :
    (t.clear other).find? key = if other = key then none else t.find? key := by
  rw [find?, clear, List.find?_filter]
  split_ifs with hkey
  · simp [hkey]
  · unfold find?
    congr 1
    funext entry
    by_cases hentry : entry.key = key
    · simp [hentry, Ne.symm hkey]
    · simp [hentry]

theorem find?_take_of_not_concerns {call : Call} (h : call.concerns key = false) :
    (t.take call).find? key = t.find? key := by
  cases call with
  | check now other => exact t.find?_check_of_ne now (by simpa [Call.concerns] using h)
  | clear other =>
    have hother : other ≠ key := by simpa [Call.concerns] using h
    rw [take, find?_clear, if_neg hother]
  | clearAll => simp [Call.concerns] at h

theorem reply?_of_not_concerns {call : Call} (h : call.concerns key = false) :
    t.reply? key call = none := by
  cases call with
  | check now other => exact if_neg (by simpa [Call.concerns] using h)
  | clear _ => rfl
  | clearAll => rfl

/-- Two throttles that cannot be told apart by one sort of line. -/
structure Alike (key : String) (t u : Throttle) : Prop where
  interval : t.interval = u.interval
  find? : t.find? key = u.find? key

theorem Alike.check (h : Alike key t u) (now : Nat) :
    (t.check now key).1 = (u.check now key).1 ∧
      (t.check now key).2.find? key = (u.check now key).2.find? key := by
  cases hu : u.find? key with
  | none =>
    have ht := h.find?.trans hu
    simp only [check_of_unknown ht now, check_of_unknown hu now, and_self]
  | some entry =>
    have ht := h.find?.trans hu
    rcases Nat.lt_or_ge (now - entry.last) u.interval with hrecent | hdue
    · have hrecent' := h.interval ▸ hrecent
      simp only [check_of_recent ht hrecent', check_of_recent hu hrecent, and_self]
    · have hdue' := h.interval ▸ hdue
      simp only [check_of_due ht hdue', check_of_due hu hdue, and_self]

theorem Alike.take (h : Alike key t u) (call : Call) : Alike key (t.take call) (u.take call) where
  interval := by rw [interval_take, interval_take, h.interval]
  find? := by
    cases hconcerns : call.concerns key with
    | false =>
      rw [find?_take_of_not_concerns hconcerns, find?_take_of_not_concerns hconcerns, h.find?]
    | true =>
      cases call with
      | check now other =>
        obtain rfl : other = key := by simpa [Call.concerns] using hconcerns
        exact (h.check now).2
      | clear other => rw [Throttle.take, Throttle.take, find?_clear, find?_clear, h.find?]
      | clearAll => rfl

theorem Alike.reply? (h : Alike key t u) (call : Call) : t.reply? key call = u.reply? key call := by
  cases call with
  | check now other => simp only [Throttle.reply?, (h.check now).1]
  | clear _ => rfl
  | clearAll => rfl

/-- Calls about other sorts of lines change no answer. -/
theorem Alike.replies_filter (h : Alike key t u) (calls : List Call) :
    t.replies key calls = u.replies key (calls.filter (·.concerns key)) := by
  induction calls generalizing t u with
  | nil => rfl
  | cons call calls ih =>
    cases hconcerns : call.concerns key with
    | true =>
      rw [List.filter_cons_of_pos hconcerns, Throttle.replies, Throttle.replies, h.reply? call,
        ih (h.take call)]
    | false =>
      have hkept : Alike key (t.take call) u :=
        ⟨(t.interval_take call).trans h.interval,
          (find?_take_of_not_concerns hconcerns).trans h.find?⟩
      rw [List.filter_cons_of_neg (by simp [hconcerns]), Throttle.replies,
        reply?_of_not_concerns hconcerns, Option.toList_none, List.nil_append, ih hkept]

/-! ## Looking back -/

/-- The last line that was let through. -/
def lastPassed? (replies : List Reply) : Option Reply := (replies.filter (·.passed)).getLast?

/-- The number of lines held back since then. -/
def heldSince (replies : List Reply) : Nat := (replies.rtakeWhile (·.held)).length

/-- What a check has to be answered after those answers. -/
def verdict (interval : Nat) (earlier : List Reply) (now : Nat) : Option Nat :=
  match lastPassed? earlier with
  | none => some 0
  | some last => if now - last.time < interval then none else some (heldSince earlier)

variable {interval : Nat} {replies : List Reply} {r : Reply}

@[simp]
theorem lastPassed?_nil : lastPassed? [] = none := rfl

@[simp]
theorem heldSince_nil : heldSince [] = 0 := rfl

theorem lastPassed?_concat_of_some {n : Nat} (h : r.count = some n) :
    lastPassed? (replies ++ [r]) = some r := by
  simp [lastPassed?, List.filter_append, Reply.passed, h]

theorem lastPassed?_concat_of_none (h : r.count = none) :
    lastPassed? (replies ++ [r]) = lastPassed? replies := by
  simp [lastPassed?, List.filter_append, Reply.passed, h]

theorem heldSince_concat_of_some {n : Nat} (h : r.count = some n) :
    heldSince (replies ++ [r]) = 0 := by
  rw [heldSince, List.rtakeWhile_concat_neg _ _ _ (by simp [Reply.held, h]), List.length_nil]

theorem heldSince_concat_of_none (h : r.count = none) :
    heldSince (replies ++ [r]) = heldSince replies + 1 := by
  rw [heldSince, List.rtakeWhile_concat_pos _ _ _ (by simp [Reply.held, h]), List.length_append,
    List.length_singleton, heldSince]

/-- The line that was let through last came latest. -/
theorem exists_lastPassed (htimes : (replies.map (·.time)).Pairwise (· ≤ ·))
    (hr : r ∈ replies.filter (·.passed)) : ∃ last ∈ lastPassed? replies, r.time ≤ last.time := by
  have hpassed : ((replies.filter (·.passed)).map (·.time)).Pairwise (· ≤ ·) :=
    htimes.sublist (List.filter_sublist.map _)
  unfold lastPassed?
  rcases (replies.filter (·.passed)).eq_nil_or_concat with hnil | ⟨others, last, hconcat⟩
  · simp [hnil] at hr
  · rw [hconcat, List.concat_eq_append] at hr hpassed ⊢
    rw [List.map_append, List.pairwise_append] at hpassed
    refine ⟨last, by simp, ?_⟩
    rcases List.mem_append.mp hr with hothers | hlast
    · exact hpassed.2.2 r.time (List.mem_map_of_mem hothers) last.time (by simp)
    · rw [List.mem_singleton.mp hlast]

/-- Every answer is what those before it ask for. -/
def Judged (interval : Nat) (replies : List Reply) : Prop :=
  ∀ earlier reply later, replies = earlier ++ reply :: later →
    reply.count = verdict interval earlier reply.time

theorem judged_nil : Judged interval [] := by
  intro earlier reply later h
  simp at h

theorem judged_concat_iff :
    Judged interval (replies ++ [r]) ↔
      Judged interval replies ∧ r.count = verdict interval replies r.time := by
  constructor
  · intro h
    refine ⟨?_, h replies r [] rfl⟩
    intro earlier reply later hreplies
    apply h earlier reply (later ++ [r])
    rw [hreplies, List.append_assoc, List.cons_append]
  · intro ⟨hjudged, hlast⟩ earlier reply later h
    rcases later.eq_nil_or_concat with rfl | ⟨others, final, rfl⟩
    · obtain ⟨rfl, hsame⟩ := List.append_inj' h rfl
      obtain rfl := List.singleton_inj.mp hsame
      exact hlast
    · rw [List.concat_eq_append, ← List.cons_append, ← List.append_assoc] at h
      exact hjudged earlier reply others (List.append_inj' h rfl).1

namespace Judged

variable (h : Judged interval replies)

include h

theorem eq_nil (hnone : lastPassed? replies = none) : replies = [] := by
  induction replies using List.reverseRecOn with
  | nil => rfl
  | append_singleton replies r ih =>
    obtain ⟨hjudged, hverdict⟩ := judged_concat_iff.mp h
    cases hcount : r.count with
    | none =>
      rw [lastPassed?_concat_of_none hcount] at hnone
      simp [hcount, verdict, hnone] at hverdict
    | some n => simp [lastPassed?_concat_of_some hcount] at hnone

/-- A line that is let through reports those held back since the last one. -/
theorem length_eq :
    replies.length =
      replies.countP (·.passed) + (replies.filterMap (·.count)).sum + heldSince replies := by
  induction replies using List.reverseRecOn with
  | nil => rfl
  | append_singleton replies r ih =>
    obtain ⟨hjudged, hverdict⟩ := judged_concat_iff.mp h
    have hreplies := ih hjudged
    cases hcount : r.count with
    | none =>
      have hpassed : [r].countP (·.passed) = 0 := by simp [Reply.passed, hcount]
      rw [heldSince_concat_of_none hcount, List.length_append, List.length_singleton,
        List.countP_append, hpassed, List.filterMap_append, List.filterMap_cons_none hcount,
        List.filterMap_nil, List.append_nil, hreplies]
      omega
    | some n =>
      have hpassed : [r].countP (·.passed) = 1 := by simp [Reply.passed, hcount]
      have hn : n = heldSince replies := by
        rw [hcount] at hverdict
        unfold verdict at hverdict
        split at hverdict
        · rename_i hnone
          rw [eq_nil hjudged hnone]
          exact Option.some.inj hverdict
        · split_ifs at hverdict
          exact Option.some.inj hverdict
      rw [heldSince_concat_of_some hcount, List.length_append, List.length_singleton,
        List.countP_append, hpassed, List.filterMap_append, List.filterMap_cons_some hcount,
        List.filterMap_nil, List.sum_append, List.sum_singleton, hreplies, hn]
      omega

theorem count_head {first : Reply} (hfirst : first ∈ replies.head?) : first.count = some 0 := by
  obtain ⟨rest, rfl⟩ := List.head?_eq_some_iff.mp hfirst
  exact h [] first rest rfl

/-- A line is held back exactly if the last one that was let through is too close in time. -/
theorem count_eq_none_iff {earlier later : List Reply}
    (hreplies : replies = earlier ++ r :: later) :
    r.count = none ↔ ∃ last ∈ lastPassed? earlier, r.time - last.time < interval := by
  rw [h earlier r later hreplies, verdict]
  cases lastPassed? earlier <;> simp

/-- Lines that are let through are at least the interval apart. -/
theorem spaced (htimes : (replies.map (·.time)).Pairwise (· ≤ ·)) :
    (replies.filter (·.passed)).Pairwise fun earlier later ↦
      earlier.time + interval ≤ later.time := by
  induction replies using List.reverseRecOn with
  | nil => exact List.Pairwise.nil
  | append_singleton replies r ih =>
    obtain ⟨hjudged, -⟩ := judged_concat_iff.mp h
    rw [List.map_append, List.pairwise_append] at htimes
    obtain ⟨hearlier, -, hfinal⟩ := htimes
    have hbefore : ∀ s ∈ replies, s.time ≤ r.time := fun s hs ↦
      hfinal s.time (List.mem_map_of_mem hs) r.time (by simp)
    rw [List.filter_append, List.pairwise_append]
    refine ⟨ih hjudged hearlier, (List.pairwise_singleton _ r).filter _, ?_⟩
    intro s hs final hpassed
    rw [List.mem_filter, List.mem_singleton] at hpassed
    obtain ⟨rfl, hpassed⟩ := hpassed
    obtain ⟨last, hlast, hle⟩ := exists_lastPassed hearlier hs
    have hmem : last ∈ replies := List.mem_of_mem_filter (List.mem_of_getLast? hlast)
    have hdue : interval ≤ final.time - last.time := by
      apply Nat.le_of_not_lt
      intro hrecent
      have hnone := (h.count_eq_none_iff rfl).mpr ⟨last, hlast, hrecent⟩
      simp [Reply.passed, hnone] at hpassed
    have htime := hbefore last hmem
    omega

end Judged

/-! ## Entries and answers -/

/-- What is known about a sort of line is what those answers tell. -/
def Remembers (t : Throttle) (key : String) (replies : List Reply) : Prop :=
  t.find? key = (lastPassed? replies).map fun last ↦ ⟨key, last.time, heldSince replies⟩

/-- A check is answered as the answers before it ask for, and remembered. -/
theorem Remembers.check (h : t.Remembers key replies) (now : Nat) :
    (t.check now key).1 = verdict t.interval replies now ∧
      (t.check now key).2.Remembers key (replies ++ [⟨now, (t.check now key).1⟩]) := by
  unfold Remembers at h ⊢
  cases hlast : lastPassed? replies with
  | none =>
    rw [hlast] at h
    obtain ⟨hanswer, hentry⟩ := check_of_unknown h now
    rw [hanswer, hentry, lastPassed?_concat_of_some rfl, heldSince_concat_of_some rfl, verdict,
      hlast]
    exact ⟨rfl, rfl⟩
  | some last =>
    rw [hlast] at h
    rcases Nat.lt_or_ge (now - last.time) t.interval with hrecent | hdue
    · obtain ⟨hanswer, hentry⟩ := check_of_recent h hrecent
      rw [hanswer, hentry, lastPassed?_concat_of_none rfl, heldSince_concat_of_none rfl, verdict,
        hlast]
      exact ⟨(if_pos hrecent).symm, rfl⟩
    · obtain ⟨hanswer, hentry⟩ := check_of_due h hdue
      rw [hanswer, hentry, lastPassed?_concat_of_some rfl, heldSince_concat_of_some rfl, verdict,
        hlast]
      exact ⟨(if_neg (Nat.not_lt.mpr hdue)).symm, rfl⟩

theorem pending_of_remembers (h : t.Remembers key replies)
    (hjudged : Judged interval replies) : t.pending key = heldSince replies := by
  rw [pending, h]
  cases hlast : lastPassed? replies with
  | none =>
    rw [hjudged.eq_nil hlast]
    rfl
  | some last => rfl

/-- The entries of a throttle come to the same as looking back. -/
theorem judged_replies (hunknown : t.find? key = none) {calls : List Call}
    (hkept : ∀ call ∈ calls, call.clears key = false) :
    Judged t.interval (t.replies key calls) ∧
      (t.takeAll calls).Remembers key (t.replies key calls) := by
  induction calls using List.reverseRecOn with
  | nil => exact ⟨judged_nil, hunknown⟩
  | append_singleton calls call ih =>
    rw [List.forall_mem_append] at hkept
    obtain ⟨hjudged, hremembers⟩ := ih hkept.1
    have hcall : call.clears key = false := hkept.2 call (List.mem_singleton_self call)
    have hlast : (t.takeAll (calls ++ [call])) = (t.takeAll calls).take call := by
      simp [takeAll, List.foldl_append]
    rw [replies_append, hlast, replies, replies, List.append_nil]
    cases hconcerns : call.concerns key with
    | false =>
      rw [reply?_of_not_concerns hconcerns, Option.toList_none, List.append_nil, Remembers,
        find?_take_of_not_concerns hconcerns]
      exact ⟨hjudged, hremembers⟩
    | true =>
      cases call with
      | check now other =>
        obtain rfl : other = key := by simpa [Call.concerns] using hconcerns
        obtain ⟨hanswer, hafter⟩ := hremembers.check now
        rw [interval_takeAll] at hanswer
        simp only [reply?, if_true, Option.toList_some]
        exact ⟨judged_concat_iff.mpr ⟨hjudged, hanswer⟩, hafter⟩
      | clear other => simp_all [Call.clears, Call.concerns]
      | clearAll => simp [Call.clears] at hcall

/-- The account of a sort of line, from a moment when the throttle knows nothing of it and as long
as it is not made to forget it.  Every check is a line let through, a line that one of these
reports, or a line still to be reported.  The first line is let through, lines let through are the
interval apart, and one that comes so much later than the last is let through.  Calls about other
sorts of lines change no answer. -/
theorem nothing_lost (interval : Nat) (before stretch : List Call) (key : String)
    (htimes : (stretch.filterMap (·.time?)).Pairwise (· ≤ ·))
    (hunknown : ((new interval).takeAll before).find? key = none)
    (hkept : ∀ call ∈ stretch, call.clears key = false) :
    let t := (new interval).takeAll before
    let answers := t.replies key stretch
    stretch.countP (·.checks key) = answers.countP (·.passed) +
        (answers.filterMap (·.count)).sum + (t.takeAll stretch).pending key ∧
      (∀ first ∈ answers.head?, first.count = some 0) ∧
      ((answers.filter (·.passed)).Pairwise fun earlier later ↦
        earlier.time + interval ≤ later.time) ∧
      (∀ earlier reply later, answers = earlier ++ reply :: later →
        ∀ last ∈ lastPassed? earlier, last.time + interval ≤ reply.time → reply.count ≠ none) ∧
      ∀ calls, (new interval).replies key calls =
        (new interval).replies key (calls.filter (·.concerns key)) := by
  intro t answers
  have hinterval : t.interval = interval := interval_takeAll (new interval) before
  obtain ⟨hjudged, hremembers⟩ := judged_replies hunknown hkept
  change Judged t.interval answers at hjudged
  rw [hinterval] at hjudged
  have hmonotone : (answers.map (·.time)).Pairwise (· ≤ ·) :=
    htimes.sublist (t.times_replies_sublist key stretch)
  refine ⟨?_, fun first ↦ hjudged.count_head, hjudged.spaced hmonotone, ?_, ?_⟩
  · calc
      stretch.countP (·.checks key) = answers.length := (t.length_replies key stretch).symm
      _ = answers.countP (·.passed) + (answers.filterMap (·.count)).sum + heldSince answers :=
        hjudged.length_eq
      _ = _ := by rw [pending_of_remembers hremembers hjudged]
  · intro earlier reply later hanswers last hlast hdue hnone
    obtain ⟨other, hother, hrecent⟩ := (hjudged.count_eq_none_iff hanswers).mp hnone
    obtain rfl : last = other := Option.mem_unique hlast hother
    omega
  · intro calls
    have halike : Alike key (new interval) (new interval) := ⟨rfl, rfl⟩
    exact halike.replies_filter calls

/-- A line is forgotten once; from then on two are held back before the next one reports them, and
one more waits to be reported. -/
theorem nothing_lost_after_recovery :
    let before : List Call := [.check 0 "push", .check 3 "push", .clear "push"]
    let stretch : List Call := [.check 5 "push", .check 6 "camera", .check 8 "push",
      .check 9 "push", .check 15 "push", .check 16 "push"]
    let t := (new 10).takeAll before
    t.replies "push" stretch = [⟨5, some 0⟩, ⟨8, none⟩, ⟨9, none⟩, ⟨15, some 2⟩, ⟨16, none⟩] ∧
      5 = 2 + 2 + (t.takeAll stretch).pending "push" := by
  intro before stretch t
  have hanswers : t.replies "push" stretch =
      [⟨5, some 0⟩, ⟨8, none⟩, ⟨9, none⟩, ⟨15, some 2⟩, ⟨16, none⟩] := by decide
  obtain ⟨hcount, -⟩ := nothing_lost 10 before stretch "push" (by decide) (by decide) (by decide)
  refine ⟨hanswers, ?_⟩
  calc
    5 = stretch.countP (·.checks "push") := by decide
    _ = (t.replies "push" stretch).countP (·.passed) +
          ((t.replies "push" stretch).filterMap (·.count)).sum +
          (t.takeAll stretch).pending "push" := hcount
    _ = 2 + 2 + (t.takeAll stretch).pending "push" := by rw [hanswers]; rfl

end LiveCamera.Throttle
