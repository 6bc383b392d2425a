import LiveCamera.Proofs.Event.Broadcasts
import LiveCamera.Proofs.Settings.Overlap

/-!
# Settings that persist

A store that is used by one caller at a time, on a database that works.  The settings in effect are
those that were set last, the rows are the texts of their sections, a store that is opened on the
rows takes the place of the one before without a difference, and a call announces the sections that
it changes (`persistence`).
-/

namespace LiveCamera

theorem Settings.sectionText_of_agreesOn {s t : Settings} {part : Section}
    (h : s.agreesOn t part = true) : s.sectionText part = t.sectionText part := by
  rw [agreesOn_iff] at h
  cases part with
  | stream => exact congrArg (·.datum.text) h
  | device => exact congrArg (·.datum.text) h
  | negotiation => exact congrArg (·.datum.text) h

theorem Settings.length_differences_le (s t : Settings) : (s.differences t).length ≤ 3 :=
  List.length_filter_le _ Section.all

theorem Settings.fits_initial : initial.Fits :=
  ⟨StreamSettings.fits_initial, NegotiationSettings.fits_initial⟩

namespace Rows

/-- The rows after several sections were saved. -/
def save (rows : Rows) (settings : Settings) (parts : List Section) : Rows :=
  parts.foldl (fun rows part ↦ rows.put part.name (settings.sectionText part)) rows

theorem get?_put_section (rows : Rows) (part other : Section) (text : String) :
    (rows.put other.name text).get? part.name =
      if part = other then some text else rows.get? part.name := by
  split_ifs with hpart
  · rw [hpart, get?_put_self]
  · exact get?_put_of_ne rows (fun hname ↦ hpart (Section.name_injective hname)) text

theorem get?_save (rows : Rows) (settings : Settings) (parts : List Section) (part : Section) :
    (rows.save settings parts).get? part.name =
      if part ∈ parts then some (settings.sectionText part) else rows.get? part.name := by
  induction parts generalizing rows with
  | nil => rfl
  | cons first rest ih =>
    rw [save, List.foldl_cons, ← save, ih, get?_put_section]
    by_cases hrest : part ∈ rest
    · simp [hrest]
    · by_cases hfirst : part = first
      · simp [hfirst]
      · simp [hrest, hfirst]

end Rows

namespace Store

/-! ## Calls on a database that works -/

/-- A replacement whose sections are all saved: each of them is, all are announced, and the settings
take effect. -/
theorem finish_of_ok (s : Store) (settings : Settings) (unsaved unannounced : List Section) :
    s.finish ⟨settings, unsaved, unannounced⟩ (fun _ ↦ .ok ()) =
      (.ok (), ⟨s.rows.save settings unsaved, settings, s.changes.sendAll unannounced⟩) := by
  induction unsaved generalizing s with
  | nil => exact s.finish_of_saved settings unannounced _
  | cons part rest ih =>
    rw [finish]
    exact ih { s with rows := s.rows.put part.name (settings.sectionText part) }

theorem set_eq (s : Store) (settings : Settings) :
    s.set settings (fun _ ↦ .ok ()) =
      (.ok (), ⟨s.rows.save settings (s.settings.differences settings), settings,
        s.changes.sendAll (s.settings.differences settings)⟩) :=
  s.finish_of_ok settings _ _

/-- Whether a store announces sections on the way to another one: nothing else was sent, and whoever
had read everything reads these sections. -/
structure Announces (s after : Store) (parts : List Section) : Prop where
  changes : after.changes = s.changes.sendAll parts
  read : ∀ subscriber, s.changes.UpToDate subscriber →
    (after.changes.drain subscriber).1 = ⟨0, parts⟩

/-! ## Occasions -/

/-- What happens to a store, one thing at a time. -/
inductive Occasion
  /-- The store is opened again, in place of the one before. -/
  | reopen
  | set (settings : Settings)
  | update (f : Settings → Settings)
  | subscribe
  | unsubscribe (subscriber : Nat)
  /-- A subscriber reads the changes that it has not read yet. -/
  | read (subscriber : Nat)

namespace Occasion

/-- The settings that were set last, if those before are given. -/
def lastSet (settings : Settings) : Occasion → Settings
  | .set replaced => replaced
  | .update f => f settings
  | _ => settings

/-- Whether the numbers of what is set fit their fields. -/
def Fits : Occasion → Prop
  | .set settings => settings.Fits
  | .update f => ∀ settings, settings.Fits → (f settings).Fits
  | _ => True

end Occasion

/-- The store afterwards, on a database that works. -/
def perform (s : Store) : Occasion → Except Failure Store
  | .reopen => (openOn s.rows).1
  | .set settings =>
    let call := s.set settings fun _ ↦ .ok ()
    call.1.map fun _ ↦ call.2
  | .update f =>
    let call := s.update f fun _ ↦ .ok ()
    call.1.map fun _ ↦ call.2
  | .subscribe => .ok { s with changes := s.changes.subscribe.2 }
  | .unsubscribe subscriber => .ok { s with changes := s.changes.unsubscribe subscriber }
  | .read subscriber => .ok { s with changes := (s.changes.drain subscriber).2 }

/-- The store on a database that was empty, after everything that happened to it. -/
def after (history : List Occasion) : Except Failure Store :=
  (openOn .empty).1.bind (history.foldlM perform ·)

/-! ## What a store can be relied on for -/

/-- The settings in effect fit their fields, and the rows are their texts. -/
structure Faithful (s : Store) : Prop where
  settings : s.settings.Fits
  rows : ∀ part : Section, s.rows.get? part.name = some (s.settings.sectionText part)
  changes : s.changes.Sound
  capacity : s.changes.capacity = changeCapacity

theorem exists_openOn_empty :
    ∃ s, openOn .empty = (.ok s, s.rows) ∧ s.Faithful ∧ s.settings = .initial := by
  refine ⟨_, rfl, ⟨Settings.fits_initial, ?_, Broadcast.sound_new _, rfl⟩, rfl⟩
  intro part
  exact (Rows.empty.get?_save .initial Section.all part).trans (if_pos part.mem_all)

namespace Faithful

variable {s : Store}

/-- A store that is opened on the rows is the same, but nobody has subscribed to it. -/
theorem openOn_rows (h : s.Faithful) :
    openOn s.rows = (.ok { s with changes := .new changeCapacity }, s.rows) := by
  have hholds : ∀ part, s.rows.Holds part s.settings := fun part ↦
    ⟨_, h.rows part, s.settings.reads_sectionText h.settings part⟩
  exact openOn_of_holds hholds

theorem get?_save_differences (h : s.Faithful) (settings : Settings) (part : Section) :
    (s.rows.save settings (s.settings.differences settings)).get? part.name =
      some (settings.sectionText part) := by
  rw [Rows.get?_save]
  split_ifs with hpart
  · rfl
  · rw [h.rows part]
    have hagree := Settings.agreesOn_of_notMem_differences hpart
    exact congrArg some (Settings.sectionText_of_agreesOn hagree)

/-- A call saves what differs, so that the rows are the texts of the new settings. -/
theorem replaced (h : s.Faithful) {settings : Settings} (hsettings : settings.Fits) :
    (⟨s.rows.save settings (s.settings.differences settings), settings,
      s.changes.sendAll (s.settings.differences settings)⟩ : Store).Faithful where
  settings := hsettings
  rows := h.get?_save_differences settings
  changes := h.changes.sendAll _
  capacity := (Broadcast.capacity_sendAll _ _).trans h.capacity

theorem perform (h : s.Faithful) {occasion : Occasion} (hfits : occasion.Fits) :
    ∃ after, s.perform occasion = .ok after ∧ after.Faithful ∧
      after.settings = occasion.lastSet s.settings := by
  cases occasion with
  | reopen =>
    refine ⟨{ s with changes := .new changeCapacity }, ?_, ?_, rfl⟩
    · rw [Store.perform, h.openOn_rows]
    · exact ⟨h.settings, h.rows, Broadcast.sound_new _, rfl⟩
  | set settings =>
    refine ⟨_, ?_, h.replaced hfits, rfl⟩
    simp only [Store.perform, set_eq]
    rfl
  | update f =>
    refine ⟨_, ?_, h.replaced (hfits s.settings h.settings), rfl⟩
    simp only [Store.perform, Store.update, set_eq]
    rfl
  | subscribe => exact ⟨_, rfl, ⟨h.settings, h.rows, h.changes.subscribe, h.capacity⟩, rfl⟩
  | unsubscribe subscriber =>
    exact ⟨_, rfl, ⟨h.settings, h.rows, h.changes.unsubscribe subscriber, h.capacity⟩, rfl⟩
  | read subscriber =>
    refine ⟨_, rfl, ⟨h.settings, h.rows, h.changes.drain subscriber, ?_⟩, rfl⟩
    exact (Broadcast.capacity_drain _ subscriber).trans h.capacity

theorem performAll (h : s.Faithful) {history : List Occasion}
    (hfits : ∀ occasion ∈ history, occasion.Fits) :
    ∃ after, history.foldlM Store.perform s = .ok after ∧ after.Faithful ∧
      after.settings = history.foldl Occasion.lastSet s.settings := by
  induction history generalizing s with
  | nil => exact ⟨s, rfl, h, rfl⟩
  | cons occasion rest ih =>
    obtain ⟨next, hnext, hfaithful, hsettings⟩ := h.perform (hfits occasion List.mem_cons_self)
    obtain ⟨after, hafter, hafterFaithful, hafterSettings⟩ :=
      ih hfaithful fun other hother ↦ hfits other (List.mem_cons_of_mem occasion hother)
    refine ⟨after, ?_, hafterFaithful, ?_⟩
    · rw [List.foldlM_cons, hnext]
      exact hafter
    · rw [hafterSettings, hsettings, List.foldl_cons]

/-- A call announces the sections that it changes, in their order. -/
theorem announces_set (h : s.Faithful) (settings : Settings) :
    s.Announces (s.set settings fun _ ↦ .ok ()).2 (s.settings.differences settings) := by
  rw [set_eq]
  refine ⟨rfl, ?_⟩
  intro subscriber hsubscriber
  apply h.changes.drain_sendAll hsubscriber
  rw [h.capacity]
  exact (s.settings.length_differences_le settings).trans (by decide)

end Faithful

/-- Whatever happened, one thing at a time, to a store on a database that was empty: the settings in
effect are those that were set last, at first those of a new device; the rows are the texts of their
sections; opening the store again changes nothing; and a call succeeds and announces the sections
that it changes, each once and in their order. -/
theorem persistence (history : List Occasion) (hfits : ∀ occasion ∈ history, occasion.Fits) :
    ∃ s, after history = .ok s ∧
      s.settings = history.foldl Occasion.lastSet .initial ∧
      (∀ part : Section, s.rows.get? part.name = some (s.settings.sectionText part)) ∧
      (∃ reopened, openOn s.rows = (.ok reopened, s.rows) ∧ reopened.settings = s.settings) ∧
      (∀ settings,
        (s.set settings fun _ ↦ .ok ()).1 = .ok () ∧
          s.Announces (s.set settings fun _ ↦ .ok ()).2
            (Section.all.filter (!s.settings.agreesOn settings ·))) ∧
      ∀ f,
        (s.update f fun _ ↦ .ok ()).1 = .ok () ∧
          s.Announces (s.update f fun _ ↦ .ok ()).2
            (Section.all.filter (!s.settings.agreesOn (f s.settings) ·)) := by
  obtain ⟨first, hopen, hfirst, hinitial⟩ := exists_openOn_empty
  obtain ⟨s, hs, hfaithful, hsettings⟩ := hfirst.performAll hfits
  have hcall : ∀ settings, (s.set settings fun _ ↦ .ok ()).1 = .ok () ∧
      s.Announces (s.set settings fun _ ↦ .ok ()).2
        (Section.all.filter (!s.settings.agreesOn settings ·)) := by
    intro settings
    refine ⟨?_, hfaithful.announces_set settings⟩
    rw [set_eq]
  refine ⟨s, ?_, ?_, hfaithful.rows, ⟨_, hfaithful.openOn_rows, rfl⟩, hcall, ?_⟩
  · rw [after, hopen]
    exact hs
  · rw [hsettings, hinitial]
  · intro f
    exact hcall (f s.settings)

/-- A port is replaced and the store opened again; the next call changes two sections. -/
theorem persistence_two_sections :
    ∃ s, after [.set (Traffic.withPort 9000 .initial), .reopen, .subscribe] = .ok s ∧
      s.settings = Traffic.withPort 9000 .initial ∧
      s.Announces (s.set (Traffic.withDevice ⟨true, false⟩ .initial) fun _ ↦ .ok ()).2
        [.stream, .device] := by
  have hfits : ∀ occasion ∈ [Occasion.set (Traffic.withPort 9000 .initial), .reopen, .subscribe],
      occasion.Fits := by
    intro occasion hoccasion
    have hcases : occasion = .set (Traffic.withPort 9000 .initial) ∨ occasion = .reopen ∨
        occasion = .subscribe := by simpa using hoccasion
    rcases hcases with rfl | rfl | rfl
    · exact Traffic.fits_withPort (by decide) Settings.fits_initial
    · trivial
    · trivial
  obtain ⟨s, hs, hsettings, -, -, hset, -⟩ := persistence _ hfits
  obtain ⟨-, hannounces⟩ := hset (Traffic.withDevice ⟨true, false⟩ .initial)
  rw [hsettings] at hannounces
  exact ⟨s, hs, hsettings, hannounces⟩

end Store

end LiveCamera
