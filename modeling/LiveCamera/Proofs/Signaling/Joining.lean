import LiveCamera.Signaling.Endpoint
import Mathlib.Data.List.Induction

/-!
# When joining connects

A device that joins a remote endpoint keeps the connection that it remembers, and it remembers a
connection until it leaves, also one that it has lost.  `joined_after` says what joining comes to
after any course of joining, leaving and losing the connection: the device is connected, or it fails
because the endpoint cannot be reached, unless the connection was lost and the device has not left
since.  Then joining succeeds and does nothing (`not_always_connected`).
-/

namespace LiveCamera.Signaling.Endpoint

/-- What becomes of the connection to a remote endpoint. -/
inductive Move
  | join (reachable : Bool) (address : String) (budget : Nat)
  | leave
  /-- The remote endpoint closes the connection or the connection breaks, and the device has
  noticed. -/
  | lose

/-- Whether messages still arrive on a connection. -/
def Link.isConnected (link : Link) : Bool := link == .live

def move (link : Link) : Move → Link
  | .join reachable address budget => (join link reachable address budget).2.1
  | .leave => leave link
  | .lose => (hangUp link).1

/-- The connection of a device after some moves. -/
def after (moves : List Move) : Link := moves.foldl move .absent

/-- Something was the case at one of the moves, and the device has not left since. -/
def Since (p : List Move → Move → Prop) (moves : List Move) : Prop :=
  ∃ before found rest, moves = before ++ found :: rest ∧ p before found ∧ .leave ∉ rest

/-- The device has joined an endpoint that could be reached, and has not left since. -/
def Remembers : List Move → Prop :=
  Since fun _ found ↦ ∃ address budget, found = .join true address budget

/-- The device has lost a connection, and has not left since. -/
def Lost : List Move → Prop :=
  Since fun before found ↦ found = .lose ∧ Remembers before

variable {moves : List Move}

theorem since_nil_iff {p : List Move → Move → Prop} : Since p [] ↔ False := by
  simp [Since]

theorem since_concat_iff {p : List Move → Move → Prop} {last : Move} :
    Since p (moves ++ [last]) ↔ p moves last ∨ Since p moves ∧ last ≠ .leave := by
  constructor
  · rintro ⟨before, found, rest, hmoves, hp, hrest⟩
    rcases rest.eq_nil_or_concat with rfl | ⟨others, final, rfl⟩
    · obtain ⟨rfl, hlast⟩ := List.append_inj' hmoves rfl
      obtain rfl := List.singleton_inj.mp hlast
      exact .inl hp
    · rw [List.concat_eq_append] at hmoves hrest
      rw [← List.cons_append, ← List.append_assoc] at hmoves
      obtain ⟨rfl, hlast⟩ := List.append_inj' hmoves rfl
      obtain rfl := List.singleton_inj.mp hlast
      obtain ⟨hothers, hleave⟩ := not_or.mp (mt List.mem_append.mpr hrest)
      exact .inr ⟨⟨before, found, others, rfl, hp, hothers⟩, by simpa [eq_comm] using hleave⟩
  · rintro (hp | ⟨⟨before, found, rest, rfl, hp, hrest⟩, hlast⟩)
    · exact ⟨moves, last, [], rfl, hp, by simp⟩
    · exact ⟨before, found, rest ++ [last], by simp, hp, by simp [hrest, Ne.symm hlast]⟩

theorem after_concat (moves : List Move) (last : Move) :
    after (moves ++ [last]) = move (after moves) last := by
  rw [after, List.foldl_append, List.foldl_cons, List.foldl_nil, after]

/-- A device has a connection if it has joined and not left since, whatever became of the
connection. -/
theorem after_ne_absent_iff : after moves ≠ .absent ↔ Remembers moves := by
  induction moves using List.reverseRecOn with
  | nil => simp [after, Remembers, since_nil_iff]
  | append_singleton moves last ih =>
    rw [after_concat, Remembers, since_concat_iff, ← Remembers, ← ih]
    cases last with
    | join reachable address budget =>
      cases after moves <;> cases reachable <;> simp [move, join]
    | leave => simp [move, leave]
    | lose => cases after moves <;> simp [move, hangUp]

theorem after_eq_ended_iff : after moves = .ended ↔ Lost moves := by
  induction moves using List.reverseRecOn with
  | nil => simp [after, Lost, since_nil_iff]
  | append_singleton moves last ih =>
    rw [after_concat, Lost, since_concat_iff, ← Lost, ← ih, ← after_ne_absent_iff]
    cases last with
    | join reachable address budget =>
      cases after moves <;> cases reachable <;> simp [move, join]
    | leave => simp [move, leave]
    | lose => cases after moves <;> simp [move, hangUp]

/-- What joining comes to after some moves.  A device without a connection opens one and announces
itself on it, or fails because the endpoint cannot be reached; one with a connection succeeds and
does nothing.  Joining that succeeds leaves the device connected exactly if it had not lost a
connection that it has not left since. -/
theorem joined_after (moves : List Move) (reachable : Bool) (address : String) (budget : Nat) :
    let joined := join (after moves) reachable address budget
    (¬Remembers moves → joined = if reachable then (.ok (), .live, [greeting])
        else (.error (.endpointUnreachable address budget), .absent, [])) ∧
      (Remembers moves → joined = (.ok (), after moves, [])) ∧
      (joined.1 = .ok () → (joined.2.1.isConnected = true ↔ ¬Lost moves)) := by
  intro joined
  have hfresh : ¬Remembers moves → joined = if reachable then (.ok (), .live, [greeting])
      else (.error (.endpointUnreachable address budget), .absent, []) := by
    intro hnot
    have habsent : after moves = .absent := not_not.mp (mt after_ne_absent_iff.mp hnot)
    simp only [joined, habsent]
    cases reachable <;> rfl
  have hkept : Remembers moves → joined = (.ok (), after moves, []) := by
    intro hremembers
    have hne := after_ne_absent_iff.mpr hremembers
    simp only [joined]
    cases hlink : after moves with
    | absent => exact absurd hlink hne
    | live => rfl
    | ended => rfl
  refine ⟨hfresh, hkept, ?_⟩
  intro hok
  rw [← after_eq_ended_iff]
  by_cases hremembers : Remembers moves
  · have hne := after_ne_absent_iff.mpr hremembers
    rw [hkept hremembers]
    cases hlink : after moves with
    | absent => exact absurd hlink hne
    | live => decide
    | ended => decide
  · have habsent : after moves = .absent := not_not.mp (mt after_ne_absent_iff.mp hremembers)
    rw [hfresh hremembers] at hok ⊢
    cases reachable with
    | true => simp [habsent, Link.isConnected]
    | false => simp at hok

/-- A device that has lost its connection joins again, and is not connected although joining
succeeds. -/
theorem not_always_connected :
    ¬∀ (moves : List Move) (reachable : Bool) (address : String) (budget : Nat),
      (join (after moves) reachable address budget).1 = .ok () →
      (join (after moves) reachable address budget).2.1.isConnected = true := by
  intro hall
  have hconnected := hall [.join true "10.0.0.1" 5000, .lose] true "10.0.0.1" 5000 rfl
  exact absurd hconnected (by decide)

end LiveCamera.Signaling.Endpoint
