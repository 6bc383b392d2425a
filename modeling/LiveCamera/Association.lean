/-!
# Association lists

What is found in a list of entries with one more entry, or without a key.
-/

namespace LiveCamera

variable {κ α : Type} [DecidableEq κ]

theorem lookup_cons_eq_ite (key : κ) (value : α) (entries : List (κ × α)) (other : κ) :
    ((key, value) :: entries).lookup other =
      if other = key then some value else entries.lookup other := by
  by_cases h : other = key
  · simp [h]
  · simp [List.lookup_cons, beq_eq_false_iff_ne.2 h, h]

theorem lookup_filter_fst_ne (key other : κ) (entries : List (κ × α)) :
    (entries.filter (·.1 != key)).lookup other =
      if other = key then none else entries.lookup other := by
  induction entries with
  | nil => simp
  | cons entry rest ih =>
    obtain ⟨k, value⟩ := entry
    by_cases hk : k = key
    · subst hk
      by_cases hother : other = k
      · simpa [hother] using ih
      · simpa [hother, List.lookup_cons, beq_eq_false_iff_ne.2 hother] using ih
    · by_cases hother : other = k
      · simp [hk, hother]
      · simpa [hk, List.lookup_cons, beq_eq_false_iff_ne.2 hother] using ih

end LiveCamera
