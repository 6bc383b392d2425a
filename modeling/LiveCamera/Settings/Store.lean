import LiveCamera.Event.Bus
import LiveCamera.Settings.Rows
import LiveCamera.Settings.Text

/-!
# The settings store

Each section of the settings is a row of its own, so that changing one leaves the others alone. The
store keeps the settings in memory; the rows are read only when it is opened. A replacement goes in
steps: the sections that differ are saved one by one, each is announced, and then the new settings
take effect. Other work may come between the steps, and the database may fail to save a section,
which ends the replacement.
-/

namespace LiveCamera

inductive Section
  | stream
  | device
  | negotiation
  deriving DecidableEq, Repr

namespace Section

/-- The key of a section's row. -/
def name : Section → String
  | stream => "stream"
  | device => "device"
  | negotiation => "negotiation"

/-- All sections, in the order in which they are read and saved. -/
def all : List Section := [stream, device, negotiation]

theorem mem_all (s : Section) : s ∈ all := by
  cases s <;> decide

theorem name_injective {s t : Section} (h : s.name = t.name) : s = t := by
  revert h
  cases s <;> cases t <;> decide

end Section

namespace Settings

def sectionText (s : Settings) : Section → String
  | .stream => s.stream.datum.text
  | .device => s.device.datum.text
  | .negotiation => s.negotiation.datum.text

/-- Whether two settings agree on a section. -/
def agreesOn (s t : Settings) : Section → Bool
  | .stream => s.stream == t.stream
  | .device => s.device == t.device
  | .negotiation => s.negotiation == t.negotiation

/-- The sections on which two settings differ, in order. -/
def differences (s t : Settings) : List Section := Section.all.filter (!s.agreesOn t ·)

theorem differences_self (s : Settings) : s.differences s = [] := by
  simp only [differences, List.filter_eq_nil_iff]
  intro x _
  cases x <;> simp [agreesOn]

/-- Settings that agree on every section are the same. -/
theorem eq_of_differences_eq_nil {s t : Settings} (h : s.differences t = []) : s = t := by
  have hall (x : Section) : s.agreesOn t x = true := by
    have := (List.filter_eq_nil_iff.1 h) x (Section.mem_all x)
    simpa using this
  obtain ⟨a, b, c⟩ := s
  obtain ⟨a', b', c'⟩ := t
  have ha : a = a' := by simpa [agreesOn] using hall .stream
  have hb : b = b' := by simpa [agreesOn] using hall .device
  have hc : c = c' := by simpa [agreesOn] using hall .negotiation
  rw [ha, hb, hc]

end Settings

/-- The number of announcements a subscriber may be behind without missing any. -/
def changeCapacity : Nat := 16

/-- A store of settings. -/
structure Store where
  rows : Rows
  /-- The settings in effect. -/
  settings : Settings
  /-- The sections that were changed. -/
  changes : Broadcast Section

/-- What remains to be done to replace the settings. -/
structure Replacement where
  settings : Settings
  /-- The sections still to be saved. -/
  unsaved : List Section
  /-- The sections still to be announced. -/
  unannounced : List Section

namespace Replacement

def steps (r : Replacement) : Nat := r.unsaved.length + r.unannounced.length + 1

end Replacement

namespace Store

/-! ## Opening -/

/-- Reads a section; one without a row gets a row with the value of a new device. -/
def readSection {α : Type} (rows : Rows) (part : Section) (initial : α) (text : α → String)
    (ofNode? : Json.Node → Option α) : Except Failure α × Rows :=
  match rows.get? part.name with
  | none => (.ok initial, rows.put part.name (text initial))
  | some stored =>
    match (Json.Node.ofText? stored).bind ofNode? with
    | none => (.error (.invalidSection part.name), rows)
    | some value => (.ok value, rows)

/-- Opens a store on existing rows: the store, or why there is none, and the rows afterwards. The
sections are read in order, and reading ends at the first that is not in its format. -/
def openOn (rows : Rows) : Except Failure Store × Rows :=
  match readSection rows .stream .initial (·.datum.text) StreamSettings.ofNode? with
  | (.error cause, rows) => (.error cause, rows)
  | (.ok stream, rows) =>
    match readSection rows .device .initial (·.datum.text) DeviceSettings.ofNode? with
    | (.error cause, rows) => (.error cause, rows)
    | (.ok device, rows) =>
      match readSection rows .negotiation .initial (·.datum.text) NegotiationSettings.ofNode? with
      | (.error cause, rows) => (.error cause, rows)
      | (.ok negotiation, rows) =>
        (.ok ⟨rows, ⟨stream, device, negotiation⟩, Broadcast.new changeCapacity⟩, rows)

/-! ## Replacing -/

/-- What replacing the settings in effect comes to. -/
def plan (s : Store) (settings : Settings) : Replacement :=
  let changed := s.settings.differences settings
  ⟨settings, changed, changed⟩

/-- One step of a replacement: what remains of it, nothing at the end, and the store. `answer` is
what the database answers if the step saves a section. -/
def advance (s : Store) (r : Replacement) (answer : Except Failure Unit) :
    Except Failure (Option Replacement) × Store :=
  match r.unsaved, r.unannounced with
  | part :: rest, _ =>
    match answer with
    | .error cause => (.error cause, s)
    | .ok _ =>
      (.ok (some { r with unsaved := rest }),
        { s with rows := s.rows.put part.name (r.settings.sectionText part) })
  | [], part :: rest =>
    (.ok (some { r with unannounced := rest }), { s with changes := s.changes.send part })
  | [], [] => (.ok none, { s with settings := r.settings })

/-- Every step of a replacement leaves fewer steps. -/
theorem steps_lt_of_advance {s after : Store} {r rest : Replacement} {answer : Except Failure Unit}
    (h : s.advance r answer = (.ok (some rest), after)) : rest.steps < r.steps := by
  obtain ⟨settings, unsaved, unannounced⟩ := r
  cases unsaved with
  | cons part others =>
    cases answer with
    | error cause => simp [advance] at h
    | ok _ =>
      simp only [advance, Prod.mk.injEq, Except.ok.injEq, Option.some.injEq] at h
      obtain ⟨rfl, _⟩ := h
      simp [Replacement.steps]
  | nil =>
    cases unannounced with
    | cons part others =>
      simp only [advance, Prod.mk.injEq, Except.ok.injEq, Option.some.injEq] at h
      obtain ⟨rfl, _⟩ := h
      simp [Replacement.steps]
    | nil => simp [advance] at h

/-- Carries a replacement out without anything in between. The database answers the save of a
section by `answer`. -/
def finish (s : Store) (r : Replacement) (answer : Section → Except Failure Unit) :
    Except Failure Unit × Store :=
  match _h : s.advance r ((r.unsaved.head?.map answer).getD (.ok ())) with
  | (.error cause, after) => (.error cause, after)
  | (.ok none, after) => (.ok (), after)
  | (.ok (some rest), after) => after.finish rest answer
termination_by r.steps
decreasing_by exact steps_lt_of_advance _h

def set (s : Store) (settings : Settings) (answer : Section → Except Failure Unit) :
    Except Failure Unit × Store :=
  s.finish (s.plan settings) answer

/-- Changes the settings in effect. -/
def update (s : Store) (f : Settings → Settings) (answer : Section → Except Failure Unit) :
    Except Failure Unit × Store :=
  s.set (f s.settings) answer

end Store

end LiveCamera
