/-!
# Throttled log lines

A failure that repeats with every frame is logged once per interval. The lines in between are
counted, and the next line says how many there were. Each sort of line, named by a key, is counted
by itself.
-/

namespace LiveCamera

/-- What is known about one sort of line. -/
structure ThrottleEntry where
  key : String
  /-- When a line was let through last. -/
  last : Nat
  /-- The lines held back since then. -/
  suppressed : Nat
  deriving DecidableEq, Repr, Inhabited

/-- Lets one line of each sort through per interval. -/
structure Throttle where
  interval : Nat
  entries : List ThrottleEntry
  deriving DecidableEq, Repr, Inhabited

namespace Throttle

def new (interval : Nat) : Throttle := ⟨interval, []⟩

/-- What is known about a sort of line. -/
def find? (t : Throttle) (key : String) : Option ThrottleEntry := t.entries.find? (·.key == key)

def count (t : Throttle) : Nat := t.entries.length

def put (t : Throttle) (entry : ThrottleEntry) : Throttle :=
  { t with entries := t.entries.map fun e ↦ if e.key = entry.key then entry else e }

/-- Whether a line may be written at `now`, and then the number of lines held back before it. -/
def check (t : Throttle) (now : Nat) (key : String) : Option Nat × Throttle :=
  match t.find? key with
  | none => (some 0, { t with entries := t.entries ++ [⟨key, now, 0⟩] })
  | some entry =>
    if now - entry.last < t.interval then
      (none, t.put { entry with suppressed := entry.suppressed + 1 })
    else (some entry.suppressed, t.put ⟨key, now, 0⟩)

/-- Forgets a sort of line, so that its next line is written at once. -/
def clear (t : Throttle) (key : String) : Throttle :=
  { t with entries := t.entries.filter (·.key != key) }

def clearAll (t : Throttle) : Throttle := { t with entries := [] }

end Throttle

end LiveCamera
