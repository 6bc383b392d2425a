import LiveCamera.Text.Lines
import Mathlib.Tactic.SplitIfs

/-!
# A text and its lines

`Consists` says of which lines a text consists, without looking for their ends: a line ends in a
line feed or in carriage return and line feed, and a rest without an end is a line unless it is
empty.  A text consists of exactly one list of lines (`consists_iff`).
-/

namespace LiveCamera.Text

/-- A text consists of those lines. -/
inductive Consists : List Char → List (List Char) → Prop
  | nil : Consists [] []
  /-- The last line may lack its end, and keeps a carriage return then. -/
  | last (line : List Char) (hne : line ≠ []) (hfeed : '\n' ∉ line) : Consists line [line]
  | feed (line rest : List Char) (lines : List (List Char)) (hfeed : '\n' ∉ line)
      (hreturn : line.getLast? ≠ some '\r') (hrest : Consists rest lines) :
      Consists (line ++ '\n' :: rest) (line :: lines)
  | returnFeed (line rest : List Char) (lines : List (List Char)) (hfeed : '\n' ∉ line)
      (hrest : Consists rest lines) : Consists (line ++ '\r' :: '\n' :: rest) (line :: lines)

theorem dropReturn_of_ne {line : List Char} (h : line.getLast? ≠ some '\r') :
    dropReturn line = line :=
  if_neg h

@[simp]
theorem dropReturn_concat (line : List Char) : dropReturn (line ++ ['\r']) = line := by
  simp [dropReturn]

/-- Up to the next line feed everything belongs to the line. -/
theorem linesFrom_append {line : List Char} (h : '\n' ∉ line) (read rest : List Char) :
    linesFrom read (line ++ rest) = linesFrom (line.reverse ++ read) rest := by
  induction line generalizing read with
  | nil => rfl
  | cons c line ih =>
    rw [List.mem_cons, not_or] at h
    rw [List.cons_append, linesFrom, if_neg (Ne.symm h.1), ih h.2, List.reverse_cons,
      List.append_assoc, List.singleton_append]

theorem lines_append_feed {line : List Char} (h : '\n' ∉ line) (rest : List Char) :
    lines (line ++ '\n' :: rest) = dropReturn line :: lines rest := by
  rw [lines, linesFrom_append h, linesFrom, if_pos rfl, List.append_nil, List.reverse_reverse,
    lines]

theorem Consists.lines_eq {cs : List Char} {ls : List (List Char)} (h : Consists cs ls) :
    lines cs = ls := by
  induction h with
  | nil => rfl
  | last line hne hfeed =>
    calc
      lines line = linesFrom [] (line ++ []) := by rw [List.append_nil, lines]
      _ = linesFrom (line.reverse ++ []) [] := linesFrom_append hfeed [] []
      _ = [line] := by simp [linesFrom, hne]
  | feed line rest ls hfeed hreturn _ ih =>
    rw [lines_append_feed hfeed, dropReturn_of_ne hreturn, ih]
  | returnFeed line rest ls hfeed _ ih =>
    have hended : '\n' ∉ line ++ ['\r'] := by simp [hfeed]
    have hcs : line ++ '\r' :: '\n' :: rest = (line ++ ['\r']) ++ '\n' :: rest := by simp
    rw [hcs, lines_append_feed hended, dropReturn_concat, ih]

/-- A text consists of the lines that are read from it. -/
theorem consists_linesFrom {read : List Char} (h : '\n' ∉ read) (cs : List Char) :
    Consists (read.reverse ++ cs) (linesFrom read cs) := by
  have hline : '\n' ∉ read.reverse := by rwa [List.mem_reverse]
  induction cs generalizing read with
  | nil =>
    rw [linesFrom, List.append_nil]
    split_ifs with hempty
    · rw [List.isEmpty_iff.mp hempty]
      exact .nil
    · exact .last _ (by simpa using hempty) hline
  | cons c rest ih =>
    by_cases hc : c = '\n'
    · rw [linesFrom, if_pos hc, hc]
      have hrest : Consists rest (linesFrom [] rest) := ih (List.not_mem_nil) (List.not_mem_nil)
      by_cases hreturn : read.reverse.getLast? = some '\r'
      · obtain ⟨line, hread⟩ := List.getLast?_eq_some_iff.mp hreturn
        rw [hread, List.mem_append, not_or] at hline
        rw [hread, dropReturn_concat, List.append_assoc, List.singleton_append]
        exact .returnFeed line rest _ hline.1 hrest
      · rw [dropReturn_of_ne hreturn]
        exact .feed _ rest _ hline hreturn hrest
    · have hread : '\n' ∉ c :: read := by simp [h, Ne.symm hc]
      have hrest := ih hread (by rwa [List.mem_reverse])
      rw [List.reverse_cons, List.append_assoc, List.singleton_append] at hrest
      rwa [linesFrom, if_neg hc]

theorem consists_iff {cs : List Char} {ls : List (List Char)} : Consists cs ls ↔ ls = lines cs := by
  constructor
  · intro h
    exact h.lines_eq.symm
  · rintro rfl
    exact consists_linesFrom List.not_mem_nil cs

end LiveCamera.Text
