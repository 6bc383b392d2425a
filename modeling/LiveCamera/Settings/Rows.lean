import LiveCamera.Association

/-!
# Stored rows

The database of a device is a table of texts with a key each. A row is written or deleted as a
whole, so a table is nothing but its look-up function on the keys that occur in it.
-/

namespace LiveCamera

/-- A table of texts, no two with one key. -/
structure Rows where
  entries : List (String × String)
  deriving DecidableEq, Repr, Inhabited

namespace Rows

def empty : Rows := ⟨[]⟩

def get? (r : Rows) (key : String) : Option String := r.entries.lookup key

def erase (r : Rows) (key : String) : Rows := ⟨r.entries.filter (·.1 != key)⟩

/-- Writes a row; one with the same key is replaced. -/
def put (r : Rows) (key text : String) : Rows := ⟨(r.erase key).entries ++ [(key, text)]⟩

def sorted (r : Rows) : List (String × String) :=
  r.entries.mergeSort fun a b ↦ !decide (b.1 < a.1)

@[simp] theorem get?_empty (key : String) : empty.get? key = none := rfl

@[simp] theorem get?_erase_self (r : Rows) (key : String) : (r.erase key).get? key = none := by
  simp [erase, get?, lookup_filter_fst_ne]

theorem get?_erase_of_ne (r : Rows) {key other : String} (h : other ≠ key) :
    (r.erase key).get? other = r.get? other := by
  simp [erase, get?, lookup_filter_fst_ne, h]

@[simp] theorem get?_put_self (r : Rows) (key text : String) :
    (r.put key text).get? key = some text := by
  have h : (r.erase key).entries.lookup key = none := r.get?_erase_self key
  simp [put, get?, List.lookup_append, h]

theorem get?_put_of_ne (r : Rows) {key other : String} (h : other ≠ key) (text : String) :
    (r.put key text).get? other = r.get? other := by
  have e : (r.erase key).entries.lookup other = r.entries.lookup other := r.get?_erase_of_ne h
  simp [put, get?, List.lookup_append, e, List.lookup_cons, beq_eq_false_iff_ne.2 h]

end Rows

end LiveCamera
