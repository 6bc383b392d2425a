import LiveCamera.Proofs.Settings.Persistence

/-!
# Replacements that are broken off

A replacement saves the sections that differ one after the other.  If the database fails to save
one, the replacement ends: the settings in effect stay as they are, and nothing is announced, but
the sections that were saved before it stay saved (`stored_after_failure`).  So the rows are those
of the settings in effect only if the first section was the one that could not be saved, and in
general a store that is opened on them reads something that was never in effect
(`not_always_as_before`).
-/

namespace LiveCamera

namespace Settings

/-- Settings some of whose sections are those of others. -/
def overlay (s t : Settings) (parts : List Section) : Settings where
  stream := if .stream ∈ parts then t.stream else s.stream
  device := if .device ∈ parts then t.device else s.device
  negotiation := if .negotiation ∈ parts then t.negotiation else s.negotiation

theorem overlay_agreesOn_of_mem {s t : Settings} {parts : List Section} {part : Section}
    (h : part ∈ parts) : t.agreesOn (s.overlay t parts) part = true := by
  rw [agreesOn_iff]
  cases part <;> exact (if_pos h).symm

theorem overlay_agreesOn_of_notMem {s t : Settings} {parts : List Section} {part : Section}
    (h : part ∉ parts) : s.agreesOn (s.overlay t parts) part = true := by
  rw [agreesOn_iff]
  cases part <;> exact (if_neg h).symm

@[simp]
theorem overlay_nil (s t : Settings) : s.overlay t [] = s := rfl

/-- Settings stay the same if, and only if, nothing is replaced on which they differ. -/
theorem overlay_eq_self_iff {s t : Settings} {parts : List Section}
    (hparts : parts ⊆ s.differences t) : s.overlay t parts = s ↔ parts = [] := by
  constructor
  · intro h
    apply List.eq_nil_iff_forall_not_mem.mpr
    intro part hpart
    have hagree : t.agreesOn (s.overlay t parts) part = true := overlay_agreesOn_of_mem hpart
    have hdiffer : s.agreesOn t part = false := agreesOn_of_mem_differences (hparts hpart)
    rw [h, agreesOn_comm, hdiffer] at hagree
    cases hagree
  · rintro rfl
    exact overlay_nil s t

end Settings

theorem Section.Reads.of_agreesOn {part : Section} {text : String} {s t : Settings}
    (h : part.Reads text s) (hagree : s.agreesOn t part = true) : part.Reads text t := by
  rw [Settings.agreesOn_iff] at hagree
  cases part with
  | stream => exact h.trans (congrArg some hagree)
  | device => exact h.trans (congrArg some hagree)
  | negotiation => exact h.trans (congrArg some hagree)

theorem Rows.Holds.of_agreesOn {rows : Rows} {part : Section} {s t : Settings}
    (h : rows.Holds part s) (hagree : s.agreesOn t part = true) : rows.Holds part t := by
  obtain ⟨text, hget, hreads⟩ := h
  exact ⟨text, hget, hreads.of_agreesOn hagree⟩

/-- Saving some sections replaces them in what the rows hold. -/
theorem Rows.Holds.save {rows : Rows} {stored settings : Settings}
    (h : ∀ part, rows.Holds part stored) (hsettings : settings.Fits) (parts : List Section)
    (part : Section) : (rows.save settings parts).Holds part (stored.overlay settings parts) := by
  by_cases hpart : part ∈ parts
  · have hreads := (settings.reads_sectionText hsettings part).of_agreesOn
      (Settings.overlay_agreesOn_of_mem (s := stored) hpart)
    exact ⟨_, (rows.get?_save settings parts part).trans (if_pos hpart), hreads⟩
  · obtain ⟨text, hget, hreads⟩ :=
      (h part).of_agreesOn (Settings.overlay_agreesOn_of_notMem (t := settings) hpart)
    refine ⟨text, ?_, hreads⟩
    rw [rows.get?_save, if_neg hpart, hget]

namespace Store

/-! ## Calls on a database that may fail -/

/-- The sections that are saved, one after the other, before the database first fails. -/
def savedBefore (answer : Section → Except Failure Unit) (parts : List Section) : List Section :=
  parts.takeWhile fun part ↦ (answer part).isOk

section Steps

variable {s after : Store} {r rest : Replacement} {answer : Section → Except Failure Unit}
  {cause : Failure}

theorem finish_of_advance_error
    (h : s.advance r ((r.unsaved.head?.map answer).getD (.ok ())) = (.error cause, after)) :
    s.finish r answer = (.error cause, after) := by
  rw [finish]
  split <;> simp_all

theorem finish_of_advance_ok
    (h : s.advance r ((r.unsaved.head?.map answer).getD (.ok ())) = (.ok (some rest), after)) :
    s.finish r answer = after.finish rest answer := by
  rw [finish]
  split <;> simp_all

end Steps

/-- A replacement whose sections are all saved takes effect; otherwise it ends with the first
failure of the database, and what was saved before stays saved. -/
theorem finish_eq (s : Store) (settings : Settings) (unsaved unannounced : List Section)
    (answer : Section → Except Failure Unit) :
    s.finish ⟨settings, unsaved, unannounced⟩ answer =
      match forM unsaved answer with
      | .ok _ => (.ok (), ⟨s.rows.save settings unsaved, settings, s.changes.sendAll unannounced⟩)
      | .error cause =>
        (.error cause, { s with rows := s.rows.save settings (savedBefore answer unsaved) }) := by
  induction unsaved generalizing s with
  | nil => exact s.finish_of_saved settings unannounced answer
  | cons part rest ih =>
    rw [List.forM_cons, savedBefore, List.takeWhile_cons]
    cases hanswer : answer part with
    | ok _ =>
      let saved : Store :=
        { s with rows := s.rows.put part.name (settings.sectionText part) }
      have hstep : s.finish ⟨settings, part :: rest, unannounced⟩ answer =
          saved.finish ⟨settings, rest, unannounced⟩ answer := by
        apply finish_of_advance_ok
        simp [advance, hanswer, saved]
      rw [hstep, ih]
      rfl
    | error cause =>
      have hstep : s.finish ⟨settings, part :: rest, unannounced⟩ answer = (.error cause, s) := by
        apply finish_of_advance_error
        simp [advance, hanswer]
      rw [hstep]
      rfl

/-- A call with what the database answers when it is to save a section.  Setting the settings is
changing them without regard to those in effect. -/
structure Attempt where
  change : Settings → Settings
  answer : Section → Except Failure Unit

/-- Whether the numbers of what is set fit their fields. -/
def Attempt.Fits (a : Attempt) : Prop := ∀ settings, settings.Fits → (a.change settings).Fits

def attempt (s : Store) (a : Attempt) : Except Failure Unit × Store := s.update a.change a.answer

def attemptAll (s : Store) (history : List Attempt) : Store :=
  history.foldl (fun s a ↦ (s.attempt a).2) s

/-- The sections that a call has to save. -/
def due (s : Store) (a : Attempt) : List Section := s.settings.differences (a.change s.settings)

/-- The sections that a call gets saved. -/
def savedBy (s : Store) (a : Attempt) : List Section := savedBefore a.answer (s.due a)

theorem attempt_eq (s : Store) (a : Attempt) :
    s.attempt a =
      match forM (s.due a) a.answer with
      | .ok _ => (.ok (), ⟨s.rows.save (a.change s.settings) (s.due a), a.change s.settings,
        s.changes.sendAll (s.due a)⟩)
      | .error cause =>
        (.error cause, { s with rows := s.rows.save (a.change s.settings) (s.savedBy a) }) :=
  s.finish_eq (a.change s.settings) _ _ a.answer

/-! ## What the rows hold -/

/-- Whether the settings in effect fit their fields and the rows hold `stored`. -/
structure Stores (s : Store) (stored : Settings) : Prop where
  settings : s.settings.Fits
  rows : ∀ part, s.rows.Holds part stored

theorem Stores.openOn_rows {s : Store} {stored : Settings} (h : s.Stores stored) :
    (openOn s.rows).1.map (·.settings) = .ok stored := by
  rw [openOn_of_holds h.rows]
  rfl

theorem Stores.attempt {s : Store} {stored : Settings} (h : s.Stores stored) {a : Attempt}
    (ha : a.Fits) :
    ∃ parts, (s.attempt a).2.Stores (stored.overlay (a.change s.settings) parts) := by
  have hchange := ha s.settings h.settings
  rw [attempt_eq]
  cases forM (s.due a) a.answer with
  | ok _ => exact ⟨s.due a, hchange, Rows.Holds.save h.rows hchange (s.due a)⟩
  | error cause => exact ⟨s.savedBy a, h.settings, Rows.Holds.save h.rows hchange (s.savedBy a)⟩

theorem Stores.attemptAll {s : Store} {stored : Settings} (h : s.Stores stored)
    {history : List Attempt} (hfits : ∀ a ∈ history, a.Fits) :
    ∃ last, (s.attemptAll history).Stores last := by
  induction history generalizing s stored with
  | nil => exact ⟨stored, h⟩
  | cons a rest ih =>
    obtain ⟨parts, hnext⟩ := h.attempt (hfits a List.mem_cons_self)
    exact ih hnext fun b hb ↦ hfits b (List.mem_cons_of_mem a hb)

/-- A call that fails leaves behind what it saved, and nothing else. -/
theorem attempt_of_error {s : Store} {a : Attempt} {cause : Failure}
    (h : (s.attempt a).1 = .error cause) :
    (s.attempt a).2 = { s with rows := s.rows.save (a.change s.settings) (s.savedBy a) } := by
  rw [attempt_eq] at h ⊢
  cases hanswer : forM (s.due a) a.answer with
  | ok _ =>
    rw [hanswer] at h
    cases h
  | error _ => rfl

theorem Stores.openOn_attempt_of_error {s : Store} {stored : Settings} (h : s.Stores stored)
    {a : Attempt} (ha : a.Fits) {cause : Failure} (hfailed : (s.attempt a).1 = .error cause) :
    (openOn (s.attempt a).2.rows).1.map (·.settings) =
      .ok (stored.overlay (a.change s.settings) (s.savedBy a)) := by
  have hchange := ha s.settings h.settings
  rw [attempt_of_error hfailed]
  exact Stores.openOn_rows ⟨h.settings, Rows.Holds.save h.rows hchange (s.savedBy a)⟩

theorem stores_of_openOn {rows after : Rows} {s : Store} (h : openOn rows = (.ok s, after)) :
    s.Stores s.settings :=
  ⟨(holds_of_openOn h).1, (holds_of_openOn h).2⟩

/-- What becomes of a call that fails, after any calls of which any may have failed, too, and
whoever has subscribed to changes.  It fails exactly if the database fails to save a section that
differs.  Then the settings in effect and the announcements stay as they were.  But the sections
that were saved before stay saved, so if the rows were those of the settings in effect, they still
are if, and only if, there were none. -/
theorem stored_after_failure {rows after : Rows} {opened : Store}
    (hopen : openOn rows = (.ok opened, after)) (history : List Attempt)
    (changes : Broadcast Section) (last : Attempt) (hfits : ∀ a ∈ history ++ [last], a.Fits) :
    let s := { opened.attemptAll history with changes }
    let call := s.attempt last
    call.1 = forM (s.due last) last.answer ∧
      ∀ cause, call.1 = .error cause →
        call.2.settings = s.settings ∧ call.2.changes = s.changes ∧
          ∃ stored, (openOn s.rows).1.map (·.settings) = .ok stored ∧
            (openOn call.2.rows).1.map (·.settings) =
              .ok (stored.overlay (last.change s.settings) (s.savedBy last)) ∧
            (stored = s.settings →
              ((openOn call.2.rows).1.map (·.settings) = .ok call.2.settings ↔
                s.savedBy last = [])) := by
  intro s call
  have hhistory : ∀ a ∈ history, a.Fits := fun a ha ↦ hfits a (List.mem_append_left _ ha)
  have hlast : last.Fits := hfits last (List.mem_append_right _ (List.mem_singleton_self last))
  obtain ⟨stored, hreached⟩ := (stores_of_openOn hopen).attemptAll hhistory
  have hstores : s.Stores stored := ⟨hreached.settings, hreached.rows⟩
  constructor
  · have hcall : call = _ := s.attempt_eq last
    rw [hcall]
    cases forM (s.due last) last.answer <;> rfl
  · intro cause hfailed
    have hafter : call.2 = _ := attempt_of_error hfailed
    have hread := hstores.openOn_attempt_of_error hlast hfailed
    have hsettings : call.2.settings = s.settings := by rw [hafter]
    refine ⟨hsettings, by rw [hafter], stored, hstores.openOn_rows, hread, ?_⟩
    rintro rfl
    rw [hread, hsettings, Except.ok.injEq]
    exact Settings.overlay_eq_self_iff (List.takeWhile_subset _)

/-- The port and the mounting of the sensor are replaced, and the database fails to save the
latter. -/
def portOnly : Attempt where
  change settings := Traffic.withPort 9000 (Traffic.withDevice ⟨true, false⟩ settings)
  answer part := if part = .device then .error .databaseFailed else .ok ()

theorem fits_portOnly : portOnly.Fits := fun _ h ↦
  Traffic.fits_withPort (by decide) (Traffic.fits_withDevice _ h)

theorem due_portOnly {s : Store} (h : s.settings = .initial) :
    s.due portOnly = [.stream, .device] := by
  rw [due, h]
  decide

theorem attempt_portOnly {s : Store} (h : s.settings = .initial) :
    (s.attempt portOnly).1 = .error .databaseFailed := by
  rw [attempt_eq, due_portOnly h]
  rfl

theorem overlay_portOnly {s : Store} (h : s.settings = .initial) :
    s.settings.overlay (portOnly.change s.settings) (s.savedBy portOnly) =
      Traffic.withPort 9000 .initial := by
  rw [savedBy, due_portOnly h, h]
  rfl

/-- A new store in which a replacement fails with the second section: the settings of a new device
stay in effect, and the rows have the port that never was. -/
theorem stored_after_failure_new_port :
    ∃ s, openOn .empty = (.ok s, s.rows) ∧
      (s.attempt portOnly).1 = .error .databaseFailed ∧
      (s.attempt portOnly).2.settings = .initial ∧
      (openOn (s.attempt portOnly).2.rows).1.map (·.settings) =
        .ok (Traffic.withPort 9000 .initial) := by
  obtain ⟨s, hopen, -, hinitial⟩ := exists_openOn_empty
  have hfits : ∀ a ∈ [] ++ [portOnly], a.Fits := fun a ha ↦
    List.mem_singleton.mp ha ▸ fits_portOnly
  obtain ⟨-, hfailure⟩ := stored_after_failure hopen [] s.changes portOnly hfits
  have hfailed := attempt_portOnly hinitial
  obtain ⟨hsettings, -, stored, hstored, hread, -⟩ := hfailure .databaseFailed hfailed
  obtain rfl : stored = s.settings :=
    Except.ok.inj (hstored.symm.trans (stores_of_openOn hopen).openOn_rows)
  exact ⟨s, hopen, hfailed, hsettings.trans hinitial,
    hread.trans (congrArg Except.ok (overlay_portOnly hinitial))⟩

/-- If the second section cannot be saved, a store that is opened on the rows reads the first one as
it never was in effect. -/
theorem not_always_as_before :
    ¬∀ (rows after : Rows) (s : Store) (a : Attempt) (cause : Failure),
      openOn rows = (.ok s, after) → a.Fits → (s.attempt a).1 = .error cause →
        (openOn (s.attempt a).2.rows).1.map (·.settings) = .ok (s.attempt a).2.settings := by
  intro h
  obtain ⟨s, hopen, -, hinitial⟩ := exists_openOn_empty
  have hfailed := attempt_portOnly hinitial
  have hread := (stores_of_openOn hopen).openOn_attempt_of_error fits_portOnly hfailed
  rw [h _ _ s portOnly _ hopen fits_portOnly hfailed, attempt_of_error hfailed,
    overlay_portOnly hinitial, hinitial] at hread
  have hport : (8000 : Nat) = 9000 :=
    congrArg (fun s : Settings ↦ s.stream.port) (Except.ok.inj hread)
  revert hport
  decide

end Store

end LiveCamera
