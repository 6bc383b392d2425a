import LiveCamera.AnnexB
import Mathlib.Data.List.Infix
import Mathlib.Tactic.Ring

/-!
# Framing of NAL units

What `split` finds in a stream of framed units.  `cut` looks at every place of a buffer once:
where a start code begins it cuts, anywhere else it goes on (`cut_startCode`, `cut_cons`).  So it
finds no start code inside a part (`codeFree_of_mem_cut`) and every one between two parts
(`cut_append`).  The zero octet of a long start code stays at the end of the part in front of it,
from where `unitsFrom` takes it back.  `split_framed` says that splitting undoes framing.
-/

namespace LiveCamera

namespace AnnexB

/-- What every start code ends in. -/
def startCode : Bytes := [0, 0, 1]

/-- Whether no start code stands anywhere in a stretch of a stream. -/
def CodeFree (part : Bytes) : Prop := ¬startCode <:+: part

instance : DecidablePred CodeFree := fun part ↦ inferInstanceAs (Decidable (¬startCode <:+: part))

variable {part : Bytes}

theorem CodeFree.of_infix {whole : Bytes} (h : CodeFree whole) (hpart : part <:+: whole) :
    CodeFree part :=
  fun hcode ↦ h (hcode.trans hpart)

theorem codeFree_of_length_lt (h : part.length < 3) : CodeFree part := by
  intro hcode
  have hlength := hcode.length_le
  simp only [startCode, List.length_cons, List.length_nil] at hlength
  omega

/-- A start code that one more octet brings in ends with that octet. -/
theorem CodeFree.concat (h : CodeFree part) {octet : UInt8}
    (hlast : ¬startCode <:+ part ++ [octet]) : CodeFree (part ++ [octet]) := by
  intro hcode
  rcases List.infix_concat_iff.mp hcode with hsuffix | hinfix
  · exact hlast hsuffix
  · exact h hinfix

/-- Start codes end in a one, so zero octets bring none in. -/
theorem CodeFree.concat_zero (h : CodeFree part) : CodeFree (part ++ [0]) := by
  apply h.concat
  rintro ⟨before, hbefore⟩
  have hlast := congrArg List.getLast? hbefore
  simp [startCode] at hlast

/-! ## Cutting -/

theorem cut_startCode (read rest : Bytes) :
    cut read (startCode ++ rest) = read.reverse :: cut [] rest := by
  simp [startCode, cut]

/-- Where no start code begins the cut goes on. -/
theorem cut_cons (read : Bytes) {octet : UInt8} {rest : Bytes}
    (h : ¬startCode <+: octet :: rest) : cut read (octet :: rest) = cut (octet :: read) rest := by
  match rest with
  | [] => simp [cut]
  | [_] => simp [cut]
  | second :: third :: later =>
    rw [cut, if_neg]
    rintro ⟨rfl, rfl, rfl⟩
    exact h (List.prefix_append startCode later)

/-- A part without a start code is not cut. -/
theorem cut_of_codeFree (h : CodeFree part) (read : Bytes) :
    cut read part = [read.reverse ++ part] := by
  induction part generalizing read with
  | nil => simp [cut]
  | cons octet part ih =>
    have hstart : ¬startCode <+: octet :: part := fun hcode ↦ h hcode.isInfix
    rw [cut_cons read hstart, ih (h.of_infix (List.suffix_cons octet part).isInfix),
      List.reverse_cons, List.append_assoc, List.singleton_append]

/-- The first cut is at the first start code.  The two octets behind `part` are those that the code
begins with: a code must not begin earlier and overlap with them. -/
theorem cut_append (h : CodeFree (part ++ [0, 0])) (read rest : Bytes) :
    cut read (part ++ startCode ++ rest) = (read.reverse ++ part) :: cut [] rest := by
  induction part generalizing read with
  | nil => rw [List.nil_append, cut_startCode, List.append_nil]
  | cons octet part ih =>
    have hstart : ¬startCode <+: octet :: (part ++ startCode ++ rest) := by
      intro hcode
      -- The code would be among the first three octets, which are also those of `part ++ [0, 0]`.
      apply h
      have hprefix : startCode <+: (octet :: part ++ [0, 0]) ++ (1 :: rest) := by
        simpa [startCode] using hcode
      have hlength : startCode.length ≤ (octet :: part ++ [0, 0]).length := by
        simp only [startCode, List.length_append, List.length_cons, List.length_nil]
        omega
      exact (List.prefix_of_prefix_length_le hprefix (List.prefix_append _ _) hlength).isInfix
    have hrest : CodeFree (part ++ [0, 0]) := h.of_infix (List.suffix_cons octet _).isInfix
    rw [List.cons_append, List.cons_append, cut_cons read hstart, ih hrest, List.reverse_cons,
      List.append_assoc, List.singleton_append]

/-- No part contains a start code.  What was read since the last cut stays free of start codes
together with the two octets behind it, since a code that begins in between is cut. -/
theorem codeFree_of_mem_cut {read data : Bytes} (h : CodeFree (read.reverse ++ data.take 2)) :
    ∀ part ∈ cut read data, CodeFree part := by
  fun_induction cut read data with
  | case1 read a b c rest hcode ih =>
    have hread : CodeFree read.reverse := h.of_infix (List.prefix_append _ _).isInfix
    have hrest : CodeFree ([].reverse ++ rest.take 2) := by
      apply codeFree_of_length_lt
      simp only [List.reverse_nil, List.nil_append, List.length_take]
      omega
    exact List.forall_mem_cons.mpr ⟨hread, ih hrest⟩
  | case2 read a b c rest hcode ih =>
    apply ih
    have hconcat : CodeFree ((read.reverse ++ [a, b]) ++ [c]) := by
      apply CodeFree.concat
      · simpa using h
      · intro hsuffix
        rw [List.append_assoc] at hsuffix
        have hcodes := List.suffix_of_suffix_length_le hsuffix (List.suffix_append read.reverse _)
          (le_refl 3)
        have heq : startCode = [a, b, c] := hcodes.eq_of_length rfl
        simp [startCode] at heq
        exact hcode ⟨heq.1.symm, heq.2.1.symm, heq.2.2.symm⟩
    simpa using hconcat
  | case3 read rest hshort =>
    have htake : rest.take 2 = rest := by
      match rest with
      | [] => rfl
      | [_] => rfl
      | [_, _] => rfl
      | a :: b :: c :: later => exact (hshort a b c later rfl).elim
    rw [htake] at h
    simpa using h

end AnnexB

/-! ## Framing -/

namespace NalUnit

/-- A unit that keeps its borders in a stream: it stands behind a start code, and its payload can be
mistaken neither for a start code nor for the zero octet in front of one. -/
structure WellFramed (u : NalUnit) : Prop where
  code : u.codeLength = 3 ∨ u.codeLength = 4
  payload : u.payload ≠ []
  codeFree : AnnexB.CodeFree u.payload
  last : u.payload.getLast? ≠ some 0

/-- Units as they lie in a stream one behind the other, the first one at `position`. -/
def placed (position : Nat) : List NalUnit → List NalUnit
  | [] => []
  | u :: rest => { u with start := position } :: placed (position + u.framed.length) rest

theorem map_payload_placed (position : Nat) (units : List NalUnit) :
    (placed position units).map (·.payload) = units.map (·.payload) := by
  induction units generalizing position with
  | nil => rfl
  | cons u rest ih => rw [placed, List.map_cons, List.map_cons, ih]

/-- The zero octet of the first start code, if that is a long one. -/
def spare : List NalUnit → Bytes
  | [] => []
  | u :: _ => if u.codeLength = 4 then [0] else []

/-- The parts behind the start codes of consecutive units. -/
def partsBehind : List NalUnit → List Bytes
  | [] => []
  | u :: rest => (u.payload ++ spare rest) :: partsBehind rest

variable {units : List NalUnit}

theorem WellFramed.framed_eq {u : NalUnit} (h : u.WellFramed) (rest : List NalUnit) :
    u.framed = spare (u :: rest) ++ AnnexB.startCode ++ u.payload := by
  rcases h.code with hcode | hcode <;> simp [framed, spare, AnnexB.startCode, hcode]

theorem spare_eq (units : List NalUnit) : spare units = [] ∨ spare units = [0] := by
  unfold spare
  split
  · exact .inl rfl
  · split_ifs
    · exact .inr rfl
    · exact .inl rfl

end NalUnit

namespace AnnexB

open NalUnit

variable {junk : Bytes} {units : List NalUnit}

/-- A start code does not begin inside what precedes it. -/
theorem CodeFree.append_spare (h : CodeFree junk) (units : List NalUnit) :
    CodeFree (junk ++ spare units ++ [0, 0]) := by
  have hspare : CodeFree (junk ++ spare units) := by
    rcases spare_eq units with hspare | hspare <;> rw [hspare]
    · simpa using h
    · exact h.concat_zero
  simpa using hspare.concat_zero.concat_zero

/-- Framed units are cut at their start codes. -/
theorem cut_flatMap_framed (hjunk : CodeFree junk) (hunits : ∀ u ∈ units, u.WellFramed) :
    cut [] (junk ++ units.flatMap framed) = (junk ++ spare units) :: partsBehind units := by
  induction units generalizing junk with
  | nil => simpa [spare, partsBehind] using cut_of_codeFree hjunk []
  | cons u rest ih =>
    have hu := hunits u List.mem_cons_self
    have hrest := ih hu.codeFree fun other hother ↦ hunits other (List.mem_cons_of_mem u hother)
    have hstream : junk ++ (u :: rest).flatMap framed =
        (junk ++ spare (u :: rest)) ++ startCode ++ (u.payload ++ rest.flatMap framed) := by
      rw [List.flatMap_cons, hu.framed_eq rest]
      simp only [List.append_assoc]
    rw [hstream, cut_append (hjunk.append_spare (u :: rest)), hrest]
    rfl

theorem endsInZero_append_spare (hjunk : junk.getLast? ≠ some 0) (units : List NalUnit) :
    endsInZero (junk ++ spare units) = !(spare units).isEmpty := by
  rcases spare_eq units with hspare | hspare <;> rw [hspare]
  · simpa [endsInZero] using hjunk
  · simp [endsInZero]

/-- The zero octet at the end of a part goes back to the code that follows it. -/
theorem unitsFrom_partsBehind (hunits : ∀ u ∈ units, u.WellFramed)
    (hjunk : junk.getLast? ≠ some 0) (position : Nat) :
    unitsFrom (position + (spare units).length) (junk ++ spare units) (partsBehind units) =
      placed position units := by
  induction units generalizing junk position with
  | nil => rfl
  | cons u rest ih =>
    have hu := hunits u List.mem_cons_self
    have hnext : position + (spare (u :: rest)).length + 3 + (u.payload ++ spare rest).length =
        position + u.framed.length + (spare rest).length := by
      rw [hu.framed_eq rest]
      simp only [List.length_append, startCode, List.length_cons, List.length_nil]
      ring
    have hpayload :
        (if endsInZero (u.payload ++ spare rest) && !(partsBehind rest).isEmpty then
          (u.payload ++ spare rest).dropLast else u.payload ++ spare rest) = u.payload := by
      rw [endsInZero_append_spare hu.last]
      cases rest with
      | nil => simp [spare]
      | cons next later =>
        rcases spare_eq (next :: later) with hspare | hspare <;> rw [hspare] <;>
          simp [partsBehind]
    have hrest := ih (fun other hother ↦ hunits other (List.mem_cons_of_mem u hother)) hu.last
      (position + u.framed.length)
    rw [partsBehind, unitsFrom, placed, hpayload, endsInZero_append_spare hjunk, hnext, hrest]
    congr 1
    rcases hu.code with hcode | hcode <;> simp [spare, hcode]

/-- Splitting undoes framing: behind whatever precedes them, units that keep their borders are found
in order, each one in its place with its own start code and its own payload.  Units may be missing
altogether only if nothing precedes them. -/
theorem split_framed (hjunk : CodeFree junk) (hlast : junk.getLast? ≠ some 0)
    (hnone : units = [] → junk = []) (hunits : ∀ u ∈ units, u.WellFramed) :
    split (junk ++ units.flatMap framed) = placed junk.length units := by
  cases units with
  | nil =>
    rw [hnone rfl]
    rfl
  | cons u rest =>
    have hparts := cut_flatMap_framed hjunk hunits
    have hfound := unitsFrom_partsBehind hunits hlast junk.length
    rw [← List.length_append] at hfound
    have hkept : ∀ found ∈ placed junk.length (u :: rest), (!found.payload.isEmpty) = true := by
      intro found hmem
      have hpayload := List.mem_map_of_mem (f := (·.payload)) hmem
      rw [map_payload_placed] at hpayload
      obtain ⟨original, horiginal, hsame⟩ := List.mem_map.mp hpayload
      simpa [← hsame] using (hunits original horiginal).payload
    rw [split, parts, hparts]
    change (unitsFrom _ _ (partsBehind (u :: rest))).filter _ = _
    rw [hfound, List.filter_eq_self]
    exact hkept

/-- A short start code behind a payload that ends in a one, a payload that begins with a zero octet
and holds two of them, and a long start code. -/
theorem split_framed_zero_octets :
    let junk : Bytes := [9, 0, 1]
    let units : List NalUnit :=
      [⟨0, 4, [64, 1]⟩, ⟨0, 3, [0, 66, 0, 0, 2]⟩, ⟨0, 4, [0, 38]⟩]
    CodeFree junk ∧ junk.getLast? ≠ some 0 ∧ (units = [] → junk = []) ∧
      (∀ u ∈ units, u.WellFramed) ∧
      split [9, 0, 1, 0, 0, 0, 1, 64, 1, 0, 0, 1, 0, 66, 0, 0, 2, 0, 0, 0, 1, 0, 38] =
        [⟨3, 4, [64, 1]⟩, ⟨9, 3, [0, 66, 0, 0, 2]⟩, ⟨17, 4, [0, 38]⟩] := by
  intro junk units
  have hjunk : CodeFree junk := by decide
  have hlast : junk.getLast? ≠ some 0 := by decide
  have hnone : units = [] → junk = [] := by decide
  have hunits : ∀ u ∈ units, u.WellFramed := by
    intro u hu
    rcases List.mem_cons.mp hu with rfl | hu
    · exact ⟨by decide, by decide, by decide, by decide⟩
    rcases List.mem_cons.mp hu with rfl | hu
    · exact ⟨by decide, by decide, by decide, by decide⟩
    · rw [List.mem_singleton.mp hu]
      exact ⟨by decide, by decide, by decide, by decide⟩
  exact ⟨hjunk, hlast, hnone, hunits, split_framed hjunk hlast hnone hunits⟩

end AnnexB

end LiveCamera
