/-!
# Gates

A track passes media on while its gate is open. The transport opens and shuts the gate as a viewer
comes and goes; once the track's connection is given up the gate is locked and stays shut.
-/

namespace LiveCamera

/-- Whether a track passes media on. -/
structure Gate where
  /-- What the transport asked for last. -/
  wanted : Bool
  /-- Whether the gate was locked. -/
  locked : Bool
  deriving DecidableEq, Repr, Inhabited

namespace Gate

def shut : Gate := ⟨false, false⟩

def isOpen (g : Gate) : Bool := g.wanted && !g.locked

/-- Opens or shuts the gate; a locked one stays as it is. -/
def set (g : Gate) (wanted : Bool) : Gate := if g.locked then g else { g with wanted }

/-- Shuts the gate for good. -/
def lock (_ : Gate) : Gate := ⟨false, true⟩

@[simp] theorem isOpen_shut : shut.isOpen = false := rfl

@[simp] theorem locked_lock (g : Gate) : g.lock.locked = true := rfl

@[simp] theorem locked_set (g : Gate) (wanted : Bool) : (g.set wanted).locked = g.locked := by
  unfold set
  split <;> rfl

theorem isOpen_of_locked {g : Gate} (h : g.locked = true) : g.isOpen = false := by
  simp [isOpen, h]

theorem locked_of_isOpen {g : Gate} (h : g.isOpen = true) : g.locked = false := by
  rw [isOpen, Bool.and_eq_true, Bool.not_eq_true'] at h
  exact h.2

/-- An unlocked gate follows the last request. -/
theorem isOpen_set {g : Gate} (h : g.locked = false) (wanted : Bool) :
    (g.set wanted).isOpen = wanted := by
  simp [set, isOpen, h]

end Gate

end LiveCamera
