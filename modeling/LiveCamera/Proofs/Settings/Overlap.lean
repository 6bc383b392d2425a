import LiveCamera.Proofs.Settings.Stored
import Mathlib.Logic.Function.Basic

/-!
# Overlapping replacements

A store is shared, and a replacement waits for the database with every section that it saves.  While
it waits, others may begin and end.  Each of them saves the sections in which it differs from the
settings that it found, but when it returns its settings take effect as a whole.

So the rows hold each section as it was saved last, and the settings in effect are those of the
replacement that returned last.  The two agree as long as replacements do not overlap
(`reopened_after`), but not in general (`not_always_agree`).
-/

namespace LiveCamera

namespace Settings

theorem agreesOn_iff {s t : Settings} {part : Section} : s.agreesOn t part = true ↔
    match part with
    | .stream => s.stream = t.stream
    | .device => s.device = t.device
    | .negotiation => s.negotiation = t.negotiation := by
  cases part <;> exact beq_iff_eq

theorem agreesOn_refl (s : Settings) (part : Section) : s.agreesOn s part = true := by
  cases part <;> exact beq_self_eq_true _

theorem agreesOn_comm (s t : Settings) (part : Section) :
    s.agreesOn t part = t.agreesOn s part := by
  cases part <;> exact BEq.comm

theorem agreesOn_trans {s t u : Settings} {part : Section} (h : s.agreesOn t part = true)
    (hu : t.agreesOn u part = true) : s.agreesOn u part = true := by
  rw [agreesOn_iff] at *
  cases part <;> exact h.trans hu

theorem agreesOn_of_notMem_differences {s t : Settings} {part : Section}
    (h : part ∉ s.differences t) : s.agreesOn t part = true := by
  rw [differences, List.mem_filter] at h
  simpa [Section.mem_all part] using h

theorem agreesOn_of_mem_differences {s t : Settings} {part : Section}
    (h : part ∈ s.differences t) : s.agreesOn t part = false := by
  simpa using (List.mem_filter.mp h).2

end Settings

namespace Store

/-- Announcing and taking effect changes no row. -/
theorem finish_of_saved (s : Store) (settings : Settings) (unannounced : List Section)
    (answer : Section → Except Failure Unit) :
    s.finish ⟨settings, [], unannounced⟩ answer =
      (.ok (), { s with settings, changes := unannounced.foldl Broadcast.send s.changes }) := by
  induction unannounced generalizing s with
  | nil =>
    rw [finish]
    rfl
  | cons part rest ih =>
    rw [finish]
    exact ih { s with changes := s.changes.send part }

/-- What a replacement does before it next waits for the database: if every section was saved, it is
announced, takes effect and returns. -/
def carryOn (s : Store) (r : Replacement) : Option Replacement × Store :=
  if r.unsaved = [] then (none, (s.finish r fun _ ↦ .ok ()).2) else (some r, s)

end Store

/-- A store with the replacements that wait for the database. -/
structure Traffic where
  store : Store
  waiting : List Replacement
  /-- The settings out of which each section was saved last. -/
  saved : Section → Settings
  /-- The settings of the replacements that returned, in order. -/
  returned : List Settings

namespace Traffic

/-- A store that nobody has written to since it was opened. -/
def start (s : Store) : Traffic := ⟨s, [], fun _ ↦ s.settings, []⟩

inductive Turn
  /-- Someone begins to replace the settings, depending on those in effect. -/
  | call (f : Settings → Settings)
  /-- The database saves the next section of a replacement that waits for it. -/
  | save (i : Nat)

/-- A replacement goes on as far as it can without the database; `waiting` are those that wait if it
has returned, and `others` puts it back among them. -/
def carryOn (t : Traffic) (r : Replacement) (waiting : List Replacement)
    (others : Replacement → List Replacement) : Traffic :=
  match t.store.carryOn r with
  | (none, store) => { t with store, waiting, returned := t.returned ++ [r.settings] }
  | (some r, store) => { t with store, waiting := others r }

def perform (t : Traffic) : Turn → Traffic
  | .call f =>
    t.carryOn (t.store.plan (f t.store.settings)) t.waiting (t.waiting ++ [·])
  | .save i =>
    match t.waiting[i]? with
    | none => t
    | some r =>
      match r.unsaved, t.store.advance r (.ok ()) with
      | part :: _, (.ok (some rest), store) =>
        { t with store, saved := Function.update t.saved part r.settings }.carryOn rest
          (t.waiting.eraseIdx i) (t.waiting.set i ·)
      | _, _ => t

def performAll (t : Traffic) (turns : List Turn) : Traffic := turns.foldl perform t

/-- Whether every replacement begins after all others have returned. -/
def OneByOne : Traffic → List Turn → Prop
  | _, [] => True
  | t, .call f :: rest => t.waiting = [] ∧ OneByOne (t.perform (.call f)) rest
  | t, .save i :: rest => OneByOne (t.perform (.save i)) rest

/-- What a store that is opened on the rows reads: every section as it was saved last. -/
def lastSaved (t : Traffic) : Settings :=
  ⟨(t.saved .stream).stream, (t.saved .device).device, (t.saved .negotiation).negotiation⟩

theorem lastSaved_eq {t : Traffic} {settings : Settings}
    (h : ∀ part, (t.saved part).agreesOn settings part = true) : t.lastSaved = settings := by
  have hstream := Settings.agreesOn_iff.mp (h .stream)
  have hdevice := Settings.agreesOn_iff.mp (h .device)
  have hnegotiation := Settings.agreesOn_iff.mp (h .negotiation)
  dsimp only at hstream hdevice hnegotiation
  rw [lastSaved, hstream, hdevice, hnegotiation]

variable {t : Traffic} {r : Replacement} {waiting : List Replacement}
  {others : Replacement → List Replacement} {i : Nat} {f : Settings → Settings}

/-! ## Turns -/

theorem carryOn_of_saved (h : r.unsaved = []) :
    t.carryOn r waiting others =
      { t with
        store := { t.store with
          settings := r.settings
          changes := r.unannounced.foldl Broadcast.send t.store.changes }
        waiting
        returned := t.returned ++ [r.settings] } := by
  obtain ⟨settings, unsaved, unannounced⟩ := r
  obtain rfl : unsaved = [] := h
  rw [carryOn, Store.carryOn, if_pos rfl, Store.finish_of_saved]

theorem carryOn_of_unsaved (h : r.unsaved ≠ []) :
    t.carryOn r waiting others = { t with waiting := others r } := by
  rw [carryOn, Store.carryOn, if_neg h]

/-- The database saved a section out of the settings. -/
def afterSaving (t : Traffic) (part : Section) (settings : Settings) : Traffic :=
  { t with
    store := { t.store with rows := t.store.rows.put part.name (settings.sectionText part) }
    saved := Function.update t.saved part settings }

/-- Nobody waits at that place of the queue, or the replacement that does has its next section saved
and carries on. -/
theorem perform_save_cases (t : Traffic) (i : Nat) :
    t.perform (.save i) = t ∨
    ∃ r part rest, t.waiting[i]? = some r ∧ r.unsaved = part :: rest ∧
      t.perform (.save i) =
        (t.afterSaving part r.settings).carryOn { r with unsaved := rest }
          (t.waiting.eraseIdx i) (t.waiting.set i ·) := by
  cases hr : t.waiting[i]? with
  | none =>
    left
    simp only [perform, hr]
  | some r =>
    cases hunsaved : r.unsaved with
    | nil =>
      left
      simp only [perform, hr, hunsaved]
    | cons part rest =>
      right
      refine ⟨r, part, rest, rfl, hunsaved, ?_⟩
      simp only [perform, hr, hunsaved, Store.advance, afterSaving]

/-! ## What the rows hold -/

/-- Everyone deals with settings that fit their fields, and the rows hold every section as it was
saved last. -/
structure Sound (t : Traffic) : Prop where
  settings : t.store.settings.Fits
  waiting : ∀ r ∈ t.waiting, r.settings.Fits
  rows : ∀ part, t.store.rows.Holds part (t.saved part)

theorem Sound.carryOn (h : t.Sound) (hr : r.settings.Fits) (hwaiting : waiting ⊆ t.waiting)
    (hothers : ∀ q ∈ others r, q = r ∨ q ∈ t.waiting) : (t.carryOn r waiting others).Sound := by
  by_cases hsaved : r.unsaved = []
  · rw [carryOn_of_saved hsaved]
    exact ⟨hr, fun q hq ↦ h.waiting q (hwaiting hq), h.rows⟩
  · rw [carryOn_of_unsaved hsaved]
    refine ⟨h.settings, ?_, h.rows⟩
    intro q hq
    rcases hothers q hq with rfl | hmem
    · exact hr
    · exact h.waiting q hmem

theorem Sound.afterSaving (h : t.Sound) (hr : r.settings.Fits) (part : Section) :
    (t.afterSaving part r.settings).Sound := by
  refine ⟨h.settings, h.waiting, ?_⟩
  intro other
  dsimp only [Traffic.afterSaving]
  by_cases hother : other = part
  · subst hother
    rw [Function.update_self]
    exact Rows.holds_put hr _ _
  · rw [Function.update_of_ne hother]
    exact (h.rows other).put_of_ne hother _

theorem Sound.perform (h : t.Sound) {turn : Turn}
    (hfits : ∀ f, turn = .call f → ∀ settings, settings.Fits → (f settings).Fits) :
    (t.perform turn).Sound := by
  cases turn with
  | call f =>
    apply h.carryOn (hfits f rfl _ h.settings) (List.Subset.refl _)
    intro q hq
    exact (List.mem_append.mp hq).symm.imp_left List.mem_singleton.mp
  | save i =>
    rcases t.perform_save_cases i with hsame | ⟨r, part, rest, hr, -, hperform⟩
    · rw [hsame]
      exact h
    · have hfirst : r.settings.Fits := h.waiting r (List.mem_of_getElem? hr)
      rw [hperform]
      have hrest : ({ r with unsaved := rest } : Replacement).settings.Fits := hfirst
      apply (h.afterSaving hfirst part).carryOn hrest (List.eraseIdx_subset)
      intro q hq
      exact (List.mem_or_eq_of_mem_set hq).symm

theorem sound_start {rows after : Rows} {s : Store} (h : Store.openOn rows = (.ok s, after)) :
    (start s).Sound := by
  obtain ⟨hfits, hrows⟩ := Store.holds_of_openOn h
  refine ⟨hfits, ?_, hrows⟩
  intro r hr
  cases hr

theorem Sound.performAll (h : t.Sound) {turns : List Turn}
    (hfits : ∀ f, .call f ∈ turns → ∀ settings, settings.Fits → (f settings).Fits) :
    (t.performAll turns).Sound := by
  induction turns generalizing t with
  | nil => exact h
  | cons turn rest ih =>
    apply ih
    · apply h.perform
      rintro f rfl
      exact hfits f List.mem_cons_self
    · intro f hf
      exact hfits f (List.mem_cons_of_mem turn hf)

/-- Opening a store on the rows reads every section as it was saved last. -/
theorem Sound.openOn_eq (h : t.Sound) :
    (Store.openOn t.store.rows).1.map (·.settings) = .ok t.lastSaved := by
  rw [Store.openOn_of_holds h.rows]
  rfl

/-! ## What is in effect -/

theorem settings_carryOn {initial : Settings}
    (h : t.store.settings = t.returned.getLastD initial) :
    (t.carryOn r waiting others).store.settings =
      (t.carryOn r waiting others).returned.getLastD initial := by
  by_cases hsaved : r.unsaved = []
  · rw [carryOn_of_saved hsaved, List.getLastD_concat]
  · rw [carryOn_of_unsaved hsaved]
    exact h

/-- The settings in effect are those of the replacement that returned last. -/
theorem settings_performAll {initial : Settings}
    (h : t.store.settings = t.returned.getLastD initial) (turns : List Turn) :
    (t.performAll turns).store.settings = (t.performAll turns).returned.getLastD initial := by
  induction turns generalizing t with
  | nil => exact h
  | cons turn rest ih =>
    apply ih
    cases turn with
    | call f => exact settings_carryOn h
    | save i =>
      rcases t.perform_save_cases i with hsame | ⟨r, part, rest, -, -, hperform⟩
      · rw [hsame]
        exact h
      · rw [hperform]
        exact settings_carryOn h

/-! ## One replacement after the other -/

/-- Nobody waits and the settings in effect are what was saved, or only one replacement waits and
the sections that it has no more to save are what it has saved. -/
def Orderly (t : Traffic) : Prop :=
  (t.waiting = [] ∧ ∀ part, (t.saved part).agreesOn t.store.settings part = true) ∨
    ∃ r, t.waiting = [r] ∧
      ∀ part ∉ r.unsaved, (t.saved part).agreesOn r.settings part = true

theorem Orderly.call (h : t.Orderly) (hwaiting : t.waiting = []) (f : Settings → Settings) :
    (t.perform (.call f)).Orderly := by
  have hsaved : ∀ part, (t.saved part).agreesOn t.store.settings part = true := by
    rcases h with ⟨-, hsaved⟩ | ⟨r, hr, -⟩
    · exact hsaved
    · rw [hwaiting] at hr
      cases hr
  have hagree : ∀ part ∉ t.store.settings.differences (f t.store.settings),
      (t.saved part).agreesOn (f t.store.settings) part = true := by
    intro part hpart
    exact Settings.agreesOn_trans (hsaved part) (Settings.agreesOn_of_notMem_differences hpart)
  by_cases hnone : t.store.settings.differences (f t.store.settings) = []
  · rw [perform, carryOn_of_saved hnone]
    refine .inl ⟨hwaiting, ?_⟩
    intro part
    exact hagree part (hnone ▸ List.not_mem_nil)
  · rw [perform, carryOn_of_unsaved hnone]
    refine .inr ⟨t.store.plan (f t.store.settings), ?_, hagree⟩
    rw [hwaiting, List.nil_append]

theorem Orderly.save (h : t.Orderly) (i : Nat) : (t.perform (.save i)).Orderly := by
  rcases t.perform_save_cases i with hsame | ⟨r, part, rest, hr, hunsaved, hperform⟩
  · rw [hsame]
    exact h
  obtain ⟨q, hwaiting, hsaved⟩ : ∃ q, t.waiting = [q] ∧
      ∀ part ∉ q.unsaved, (t.saved part).agreesOn q.settings part = true := by
    rcases h with ⟨hnone, -⟩ | hone
    · rw [hnone] at hr
      cases hr
    · exact hone
  obtain ⟨rfl, rfl⟩ : i = 0 ∧ q = r := by
    rw [hwaiting] at hr
    obtain ⟨hi, hget⟩ := List.getElem?_eq_some_iff.mp hr
    obtain rfl : i = 0 := Nat.lt_one_iff.mp hi
    exact ⟨rfl, hget⟩
  have hagree : ∀ other ∉ rest,
      (Function.update t.saved part q.settings other).agreesOn q.settings other = true := by
    intro other hother
    by_cases hself : other = part
    · rw [hself, Function.update_self]
      exact q.settings.agreesOn_refl part
    · rw [Function.update_of_ne hself]
      apply hsaved
      rw [hunsaved, List.mem_cons, not_or]
      exact ⟨hself, hother⟩
  rw [hperform]
  by_cases hlast : rest = []
  · rw [carryOn_of_saved hlast]
    left
    refine ⟨?_, fun other ↦ hagree other (hlast ▸ List.not_mem_nil)⟩
    rw [hwaiting]
    rfl
  · rw [carryOn_of_unsaved hlast]
    right
    refine ⟨{ q with unsaved := rest }, ?_, hagree⟩
    rw [hwaiting]
    rfl

theorem Orderly.performAll (h : t.Orderly) {turns : List Turn} (honeByOne : t.OneByOne turns) :
    (t.performAll turns).Orderly := by
  induction turns generalizing t with
  | nil => exact h
  | cons turn rest ih =>
    cases turn with
    | call f =>
      obtain ⟨hwaiting, hrest⟩ := honeByOne
      exact ih (h.call hwaiting f) hrest
    | save i => exact ih (h.save i) honeByOne

/-- Whatever replacements overlap on an opened store: a store that is opened on the same rows reads
every section as it was saved last, while the settings in effect are those of the replacement that
returned last.  If replacements were made one by one and all have returned, the two are the same. -/
theorem reopened_after {rows after : Rows} {s : Store} (hopen : Store.openOn rows = (.ok s, after))
    (turns : List Turn)
    (hfits : ∀ f, .call f ∈ turns → ∀ settings, settings.Fits → (f settings).Fits) :
    let t := (start s).performAll turns
    (Store.openOn t.store.rows).1.map (·.settings) = .ok t.lastSaved ∧
    t.store.settings = t.returned.getLastD s.settings ∧
    ((start s).OneByOne turns → t.waiting = [] →
      (Store.openOn t.store.rows).1.map (·.settings) = .ok t.store.settings) := by
  intro t
  have hsound : t.Sound := (sound_start hopen).performAll hfits
  refine ⟨hsound.openOn_eq, settings_performAll rfl turns, ?_⟩
  intro honeByOne hwaiting
  have horderly : t.Orderly :=
    Orderly.performAll (.inl ⟨rfl, s.settings.agreesOn_refl⟩) honeByOne
  rcases horderly with ⟨-, hsaved⟩ | ⟨r, hr, -⟩
  · rw [hsound.openOn_eq, lastSaved_eq hsaved]
  · rw [hwaiting] at hr
    cases hr

/-- Settings in which only the port of the viewer page is replaced. -/
def withPort (port : Nat) (s : Settings) : Settings := { s with stream := { s.stream with port } }

/-- Settings in which only the mounting of the sensor is replaced. -/
def withDevice (device : DeviceSettings) (s : Settings) : Settings := { s with device }

theorem fits_withPort {port : Nat} (hport : port ≤ Json.maxWord16) {s : Settings} (h : s.Fits) :
    (withPort port s).Fits :=
  ⟨⟨hport, h.stream.bitrate, h.stream.keyInterval, h.stream.signalingPort⟩, h.negotiation⟩

theorem fits_withDevice (device : DeviceSettings) {s : Settings} (h : s.Fits) :
    (withDevice device s).Fits :=
  ⟨h.stream, h.negotiation⟩

/-- A new store whose port is replaced, and what is read from its rows then. -/
theorem reopened_after_new_port :
    ∃ s after, Store.openOn .empty = (.ok s, after) ∧
      (Store.openOn ((start s).performAll [.call (withPort 9000), .save 0]).store.rows).1.map
        (·.settings) = .ok (withPort 9000 .initial) := by
  refine ⟨_, _, rfl, ?_⟩
  have hfits : ∀ f, .call f ∈ [Turn.call (withPort 9000), .save 0] →
      ∀ settings, settings.Fits → (f settings).Fits := by
    intro f hf settings h
    obtain rfl : f = withPort 9000 := by simpa using hf
    exact fits_withPort (by decide) h
  have hopen : Store.openOn .empty = (.ok _, _) := rfl
  obtain ⟨-, hsettings, hagree⟩ := reopened_after hopen _ hfits
  rw [hagree ⟨rfl, trivial⟩ rfl, hsettings]
  rfl

/-- Two replacements that overlap: each saves the section that it changes, and the second then takes
effect with the first section as it was before. -/
theorem not_always_agree :
    ¬∀ (rows after : Rows) (s : Store) (turns : List Turn), Store.openOn rows = (.ok s, after) →
      (∀ f, .call f ∈ turns → ∀ settings, settings.Fits → (f settings).Fits) →
      let t := (start s).performAll turns
      t.waiting = [] →
        (Store.openOn t.store.rows).1.map (·.settings) = .ok t.store.settings := by
  intro h
  let turns : List Turn :=
    [.call (withPort 9000), .call (withDevice ⟨true, false⟩), .save 0, .save 0]
  have hfits : ∀ f, .call f ∈ turns → ∀ settings, settings.Fits → (f settings).Fits := by
    intro f hf settings h
    have hcases : f = withPort 9000 ∨ f = withDevice ⟨true, false⟩ := by
      simpa [turns] using hf
    rcases hcases with rfl | rfl
    · exact fits_withPort (by decide) h
    · exact fits_withDevice _ h
  have hopen : Store.openOn .empty = (.ok _, _) := rfl
  have hagree := h _ _ _ turns hopen hfits rfl
  rw [((sound_start hopen).performAll hfits).openOn_eq, settings_performAll rfl] at hagree
  have hport : (9000 : Nat) = 8000 :=
    congrArg (fun s : Settings ↦ s.stream.port) (Except.ok.inj hagree)
  revert hport
  decide

end Traffic

end LiveCamera
