import LiveCamera.Proofs.Settings.Persistence
import Mathlib.Tactic.SplitIfs

/-!
# Changes that are announced before they take effect

A replacement announces the sections that it changed, and only then its settings take effect.  A
subscriber who is told of a change in between, and looks at the settings at once, sees them as they
were (`not_always_in_effect`).  Nobody sees that later on: as soon as the replacement is over, the
settings in effect are its own or those of a later one (`announced_before_effect`).
-/

namespace LiveCamera

/-- Nobody has subscribed to a store that was opened just now. -/
theorem Store.changes_of_openOn {rows after : Rows} {s : Store}
    (h : openOn rows = (.ok s, after)) : s.changes = .new changeCapacity := by
  unfold openOn at h
  split at h
  · cases h
  split at h
  · cases h
  split at h
  · cases h
  cases h
  rfl

/-- A store to which calls are made one at a time, step by step, and which is watched meanwhile. -/
structure Watched where
  store : Store
  /-- What remains of the call under way. -/
  underWay : Option Replacement
  /-- The settings that took effect so far, in order: first those with which the store was opened,
  then those of every call that did not fail. -/
  effective : List Settings
  /-- What was announced, each section with the number that its call has, or will have, among the
  settings that took effect. -/
  labelled : Broadcast (Section × Nat)

namespace Watched

/-- A store that was opened just now. -/
def start (s : Store) : Watched := ⟨s, none, [s.settings], .new changeCapacity⟩

inductive Turn
  /-- Someone begins to replace the settings, depending on those in effect.  Nothing comes of it
  while somebody else is at it. -/
  | call (f : Settings → Settings)
  /-- The call under way takes its next step, and the database answers if that saves a section. -/
  | step (answer : Except Failure Unit)
  | subscribe
  | unsubscribe (subscriber : Nat)
  /-- A subscriber reads the changes that it has not read yet. -/
  | read (subscriber : Nat)

/-- The call under way takes its next step. -/
def advance (t : Watched) (r : Replacement) (answer : Except Failure Unit) : Watched :=
  match t.store.advance r answer with
  | (.error _, store) => { t with store, underWay := none }
  | (.ok none, store) =>
    { t with store, underWay := none, effective := t.effective ++ [r.settings] }
  | (.ok (some rest), store) =>
    { t with
      store
      underWay := some rest
      labelled := match r.unsaved, r.unannounced with
        | [], part :: _ => t.labelled.send (part, t.effective.length)
        | _, _ => t.labelled }

def perform (t : Watched) : Turn → Watched
  | .call f =>
    match t.underWay with
    | none => { t with underWay := some (t.store.plan (f t.store.settings)) }
    | some _ => t
  | .step answer =>
    match t.underWay with
    | none => t
    | some r => t.advance r answer
  | .subscribe =>
    { t with
      store := { t.store with changes := t.store.changes.subscribe.2 }
      labelled := t.labelled.subscribe.2 }
  | .unsubscribe subscriber =>
    { t with
      store := { t.store with changes := t.store.changes.unsubscribe subscriber }
      labelled := t.labelled.unsubscribe subscriber }
  | .read subscriber =>
    { t with
      store := { t.store with changes := (t.store.changes.drain subscriber).2 }
      labelled := (t.labelled.drain subscriber).2 }

def performAll (t : Watched) (turns : List Turn) : Watched := turns.foldl perform t

variable {t : Watched} {r : Replacement} {entry : Section × Nat}

/-- What a step of the call under way may be: the database fails to save a section, or saves it; a
section is announced; or the settings take effect. -/
theorem advance_cases (t : Watched) (r : Replacement) (answer : Except Failure Unit) :
    (r.unsaved ≠ [] ∧ t.advance r answer = { t with underWay := none }) ∨
    (∃ part rest, r.unsaved = part :: rest ∧
      t.advance r answer =
        { t with
          store := { t.store with
            rows := t.store.rows.put part.name (r.settings.sectionText part) }
          underWay := some { r with unsaved := rest } }) ∨
    (∃ part rest, r.unsaved = [] ∧ r.unannounced = part :: rest ∧
      t.advance r answer =
        { t with
          store := { t.store with changes := t.store.changes.send part }
          underWay := some { r with unannounced := rest }
          labelled := t.labelled.send (part, t.effective.length) }) ∨
    (r.unsaved = [] ∧
      t.advance r answer =
        { t with
          store := { t.store with settings := r.settings }
          underWay := none
          effective := t.effective ++ [r.settings] }) := by
  obtain ⟨settings, unsaved, unannounced⟩ := r
  cases unsaved with
  | cons part rest =>
    cases answer with
    | error cause => exact .inl ⟨nofun, rfl⟩
    | ok _ => exact .inr (.inl ⟨part, rest, rfl, rfl⟩)
  | nil =>
    cases unannounced with
    | cons part rest => exact .inr (.inr (.inl ⟨part, rest, rfl, rfl, rfl⟩))
    | nil => exact .inr (.inr (.inr ⟨rfl, rfl⟩))

theorem perform_call (h : t.underWay = none) (f : Settings → Settings) :
    t.perform (.call f) = { t with underWay := some (t.store.plan (f t.store.settings)) } := by
  simp only [perform, h]

theorem perform_call_of_underWay (h : t.underWay = some r) (f : Settings → Settings) :
    t.perform (.call f) = t := by
  simp only [perform, h]

theorem perform_step (h : t.underWay = some r) (answer : Except Failure Unit) :
    t.perform (.step answer) = t.advance r answer := by
  simp only [perform, h]

theorem perform_step_of_none (h : t.underWay = none) (answer : Except Failure Unit) :
    t.perform (.step answer) = t := by
  simp only [perform, h]

/-! ## Changes that were announced -/

/-- Whether a change was announced by the call under way, whose settings differ there from those
still in effect. -/
def IsPending (t : Watched) (entry : Section × Nat) : Prop :=
  t.effective.length = entry.2 ∧ ∃ r, t.underWay = some r ∧ r.unsaved = [] ∧
    t.store.settings.agreesOn r.settings entry.1 = false

/-- The settings of the calls so far by their numbers, those of the call under way at the end. -/
def requested (t : Watched) : List Settings :=
  t.effective ++ (t.underWay.map Replacement.settings).toList

/-- Whether the settings in effect have a section as the call that announced it set it, or a later
one. -/
def Sees (t : Watched) (entry : Section × Nat) : Prop :=
  ∃ number settings, entry.2 ≤ number ∧ t.requested[number]? = some settings ∧
    t.store.settings.agreesOn settings entry.1 = true

/-- Whether a change was announced by a call that took effect since, or is under way. -/
def Announced (t : Watched) (entry : Section × Nat) : Prop :=
  entry.2 < t.effective.length ∨ t.IsPending entry

theorem Announced.advance (h : t.Announced entry) (hr : t.underWay = some r)
    (answer : Except Failure Unit) : (t.advance r answer).Announced entry := by
  rcases h with hpast | ⟨hnumber, q, hq, hsaved, hdiffer⟩
  · left
    rcases t.advance_cases r answer with ⟨-, h⟩ | ⟨_, _, -, h⟩ | ⟨_, _, -, -, h⟩ | ⟨-, h⟩ <;> rw [h]
    · exact hpast
    · exact hpast
    · exact hpast
    · exact Nat.lt_of_lt_of_le hpast (by simp)
  · obtain rfl : q = r := Option.some.inj (hq.symm.trans hr)
    rcases t.advance_cases q answer with ⟨hunsaved, -⟩ | ⟨_, _, hunsaved, -⟩ | ⟨_, rest, -, -, h⟩ |
      ⟨-, h⟩
    · exact absurd hsaved hunsaved
    · rw [hsaved] at hunsaved
      cases hunsaved
    · rw [h]
      exact .inr ⟨hnumber, { q with unannounced := rest }, rfl, hsaved, hdiffer⟩
    · rw [h]
      left
      rw [List.length_append, hnumber]
      exact Nat.lt_succ_self _

theorem Announced.perform (h : t.Announced entry) (turn : Turn) :
    (t.perform turn).Announced entry := by
  cases turn with
  | call f =>
    cases hunderWay : t.underWay with
    | none =>
      rw [perform_call hunderWay]
      rcases h with hpast | ⟨-, r, hr, -⟩
      · exact .inl hpast
      · rw [hunderWay] at hr
        cases hr
    | some r => rwa [perform_call_of_underWay hunderWay]
  | step answer =>
    cases hunderWay : t.underWay with
    | none => rwa [perform_step_of_none hunderWay]
    | some r =>
      rw [perform_step hunderWay]
      exact h.advance hunderWay answer
  | subscribe => exact h
  | unsubscribe subscriber => exact h
  | read subscriber => exact h

/-- What was announced stays so. -/
theorem Announced.performAll (h : t.Announced entry) (turns : List Turn) :
    (t.performAll turns).Announced entry := by
  induction turns generalizing t with
  | nil => exact h
  | cons turn rest ih => exact ih (h.perform turn)

/-- Whether the settings in effect are those that took effect last, the call under way announces
sections on which it differs from them, and subscribers read what was announced. -/
structure Sound (t : Watched) : Prop where
  inEffect : t.effective.getLast? = some t.store.settings
  unannounced : ∀ r, t.underWay = some r →
    r.unannounced ⊆ t.store.settings.differences r.settings
  changes : t.store.changes = t.labelled.map Prod.fst
  announced : ∀ entry ∈ t.labelled.kept, t.Announced entry

theorem sound_start {rows after : Rows} {s : Store} (h : Store.openOn rows = (.ok s, after)) :
    (start s).Sound := by
  exact ⟨rfl, nofun, Store.changes_of_openOn h, nofun⟩

theorem Sound.advance (h : t.Sound) (hr : t.underWay = some r) (answer : Except Failure Unit) :
    (t.advance r answer).Sound := by
  have hannounced (entry : Section × Nat) (hentry : entry ∈ t.labelled.kept) :
      (t.advance r answer).Announced entry :=
    (h.announced entry hentry).advance hr answer
  rcases t.advance_cases r answer with ⟨-, hafter⟩ | ⟨_, _, -, hafter⟩ |
    ⟨part, rest, hsaved, hunannounced, hafter⟩ | ⟨-, hafter⟩
  · rw [hafter] at hannounced ⊢
    exact ⟨h.inEffect, nofun, h.changes, hannounced⟩
  · rw [hafter] at hannounced ⊢
    exact ⟨h.inEffect, by rintro _ ⟨⟩; exact h.unannounced r hr, h.changes, hannounced⟩
  · have hunannouncedAll := h.unannounced r hr
    rw [hunannounced] at hunannouncedAll
    have hpart := Settings.agreesOn_of_mem_differences (hunannouncedAll List.mem_cons_self)
    rw [hafter] at hannounced ⊢
    refine ⟨h.inEffect, ?_, ?_, ?_⟩
    · rintro _ ⟨⟩
      exact List.Subset.trans (List.subset_cons_self part rest) hunannouncedAll
    · rw [Broadcast.map_send, ← h.changes]
    · intro entry hentry
      rcases Broadcast.mem_kept_send hentry with hbefore | rfl
      · exact hannounced entry hbefore
      · exact .inr ⟨rfl, { r with unannounced := rest }, rfl, hsaved, hpart⟩
  · rw [hafter] at hannounced ⊢
    exact ⟨List.getLast?_concat, nofun, h.changes, hannounced⟩

theorem Sound.perform (h : t.Sound) (turn : Turn) : (t.perform turn).Sound := by
  have hannounced (entry : Section × Nat) (hentry : entry ∈ t.labelled.kept) :
      (t.perform turn).Announced entry :=
    (h.announced entry hentry).perform turn
  cases turn with
  | call f =>
    cases hunderWay : t.underWay with
    | none =>
      rw [perform_call hunderWay] at hannounced ⊢
      refine ⟨h.inEffect, ?_, h.changes, hannounced⟩
      rintro _ ⟨⟩
      exact List.Subset.refl _
    | some r => rwa [perform_call_of_underWay hunderWay]
  | step answer =>
    cases hunderWay : t.underWay with
    | none => rwa [perform_step_of_none hunderWay]
    | some r =>
      rw [perform_step hunderWay]
      exact h.advance hunderWay answer
  | subscribe =>
    refine ⟨h.inEffect, h.unannounced, ?_, hannounced⟩
    rw [Watched.perform, h.changes, Broadcast.map_subscribe]
  | unsubscribe subscriber =>
    refine ⟨h.inEffect, h.unannounced, ?_, hannounced⟩
    rw [Watched.perform, h.changes, Broadcast.map_unsubscribe]
  | read subscriber =>
    refine ⟨h.inEffect, h.unannounced, ?_, ?_⟩
    · simp only [Watched.perform, h.changes, Broadcast.map_drain]
    · simpa only [Watched.perform, Broadcast.kept_drain] using hannounced

theorem Sound.performAll (h : t.Sound) (turns : List Turn) : (t.performAll turns).Sound := by
  induction turns generalizing t with
  | nil => exact h
  | cons turn rest ih => exact ih (h.perform turn)

/-- A change is not seen while the call that announced it is under way. -/
theorem IsPending.not_sees (h : t.IsPending entry) : ¬t.Sees entry := by
  obtain ⟨hnumber, r, hr, -, hdiffer⟩ := h
  rintro ⟨number, settings, hle, hsettings, hagree⟩
  have hrequested : t.requested = t.effective ++ [r.settings] := by rw [requested, hr]; rfl
  rw [hrequested, List.getElem?_append_right (hnumber ▸ hle), List.getElem?_singleton] at hsettings
  split_ifs at hsettings
  cases hsettings
  rw [hdiffer] at hagree
  cases hagree

/-- A change that was announced is seen unless the call that announced it is still under way. -/
theorem Announced.sees_iff (h : t.Announced entry) (hsound : t.Sound) :
    t.Sees entry ↔ ¬t.IsPending entry := by
  constructor
  · intro hsees hpending
    exact hpending.not_sees hsees
  · intro hpending
    have hpast : entry.2 < t.effective.length := h.resolve_right hpending
    refine ⟨t.effective.length - 1, t.store.settings, by omega, ?_,
      t.store.settings.agreesOn_refl entry.1⟩
    rw [requested, List.getElem?_append_left (by omega), ← List.getLast?_eq_getElem?]
    exact hsound.inEffect

/-- What a subscriber sees who has read a change, whoever replaces the settings meanwhile, one call
at a time, and whichever saves fail.  Every change that is read was announced by a call, and
whenever the subscriber looks at the settings in effect from then on, they have that section as the
call set it, or a later one, unless the call is still under way: then they have it as it was, and
that is not as the call set it. -/
theorem announced_before_effect {rows after : Rows} {s : Store}
    (hopen : Store.openOn rows = (.ok s, after)) (turns more : List Turn) (subscriber : Nat) :
    let t := (start s).performAll turns
    let later := t.performAll more
    let received := (t.labelled.drain subscriber).1.messages
    (t.store.changes.drain subscriber).1.messages = received.map Prod.fst ∧
      ∀ entry ∈ received, later.Sees entry ↔ ¬later.IsPending entry := by
  intro t later received
  have hsound : t.Sound := (sound_start hopen).performAll turns
  constructor
  · rw [hsound.changes]
    exact Broadcast.messages_map_drain Prod.fst t.labelled subscriber
  · intro entry hentry
    have hannounced : t.Announced entry :=
      hsound.announced entry (Broadcast.messages_drain_subset t.labelled subscriber hentry)
    exact (hannounced.performAll more).sees_iff (hsound.performAll more)

/-- Somebody subscribes, and the port is replaced up to the announcement. -/
def portAnnounced : List Turn :=
  [.subscribe, .call (Traffic.withPort 9000), .step (.ok ()), .step (.ok ())]

/-- The new port is announced before it takes effect, and takes effect with the next step. -/
theorem announced_before_effect_new_port :
    ∃ s after, Store.openOn .empty = (.ok s, after) ∧
      let t := (start s).performAll portAnnounced
      let later := t.performAll [.step (.ok ())]
      (t.store.changes.drain 0).1.messages = [.stream] ∧
        ¬t.Sees (.stream, 1) ∧ later.Sees (.stream, 1) := by
  refine ⟨_, _, rfl, ?_⟩
  have hopen : Store.openOn .empty = (.ok _, _) := rfl
  intro t later
  obtain ⟨hread, hnow⟩ := announced_before_effect hopen portAnnounced [] 0
  obtain ⟨-, hthen⟩ := announced_before_effect hopen portAnnounced [.step (.ok ())] 0
  have hreceived : (t.labelled.drain 0).1.messages = [(.stream, 1)] := rfl
  have hentry : (.stream, 1) ∈ (t.labelled.drain 0).1.messages :=
    hreceived ▸ List.mem_singleton_self _
  refine ⟨hread.trans (congrArg (List.map Prod.fst) hreceived), ?_, ?_⟩
  · intro hsees
    exact (hnow _ hentry).mp hsees ⟨rfl, _, rfl, rfl, by decide⟩
  · apply (hthen _ hentry).mpr
    rintro ⟨-, r, hr, -⟩
    cases hr

/-- A subscriber who looks at the settings as soon as it is told of a change may see them as they
were. -/
theorem not_always_in_effect :
    ¬∀ (rows after : Rows) (s : Store) (turns : List Turn) (subscriber : Nat),
      Store.openOn rows = (.ok s, after) →
        let t := (start s).performAll turns
        ∀ entry ∈ (t.labelled.drain subscriber).1.messages, t.Sees entry := by
  intro h
  have hopen : Store.openOn .empty = (.ok _, _) := rfl
  have hsees := h _ _ _ portAnnounced 0 hopen (.stream, 1) (List.mem_singleton_self _)
  exact IsPending.not_sees ⟨rfl, _, rfl, rfl, by decide⟩ hsees

end Watched

end LiveCamera
