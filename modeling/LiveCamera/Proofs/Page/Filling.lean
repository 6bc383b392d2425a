import LiveCamera.Page.Script
import Mathlib.Data.List.Infix
import Mathlib.Tactic.SplitIfs

/-!
# Filling a template

A template is taken apart into its placeholders and the characters around them (`Dissects`).  The
script is the template with every placeholder filled and every other character as it was
(`Contents.script_filled`), for any number of placeholders and any fillings: neither placeholder can
begin inside the other or inside the address line of any port, and the text of the server is put in
last.
-/

namespace LiveCamera.Page

/-- What a template leaves open. -/
inductive Slot
  | address
  | servers
  deriving DecidableEq, Repr

/-- What stands in a template where a slot is. -/
def Slot.placeholder : Slot → List Char
  | address => addressPlaceholder.toList
  | servers => serverPlaceholder.toList

/-- What the script has where the template has a slot. -/
def Contents.filling (c : Contents) : Slot → List Char
  | .address => (addressLine (toString c.signalingPort)).toList
  | .servers => c.servers.toList

/-- A part of a template. -/
inductive Part
  | other (c : Char)
  | slot (s : Slot)
  deriving DecidableEq, Repr

/-- The text of a part, given the texts of the slots. -/
def Part.text (texts : Slot → List Char) : Part → List Char
  | other c => [c]
  | slot s => texts s

/-- The text of a template with those texts in its slots. -/
def textOf (texts : Slot → List Char) (parts : List Part) : List Char :=
  parts.flatMap (Part.text texts)

/-- The parts make up the template, and every occurrence of a placeholder is one of them. -/
structure Dissects (parts : List Part) (template : List Char) : Prop where
  text : template = textOf Slot.placeholder parts
  slots : ∀ (s : Slot) (before behind : List Char),
    template = before ++ s.placeholder ++ behind →
      ∃ ps qs, parts = ps ++ .slot s :: qs ∧ before = textOf Slot.placeholder ps ∧
        behind = textOf Slot.placeholder qs

section TextOf

variable (texts : Slot → List Char)

@[simp]
theorem textOf_nil : textOf texts [] = [] := rfl

@[simp]
theorem textOf_other (c : Char) (parts : List Part) :
    textOf texts (.other c :: parts) = c :: textOf texts parts := rfl

@[simp]
theorem textOf_slot (s : Slot) (parts : List Part) :
    textOf texts (.slot s :: parts) = texts s ++ textOf texts parts := rfl

end TextOf

/-! ## Texts that do not overlap -/

/-- Each of the texts ends in a character that the other one lacks. -/
structure Apart (x y : List Char) : Prop where
  left : ∃ a ∈ x.getLast?, a ∉ y
  right : ∃ b ∈ y.getLast?, b ∉ x

theorem Apart.symm {x y : List Char} (h : Apart x y) : Apart y x where
  left := h.right
  right := h.left

theorem Apart.right_ne_nil {x y : List Char} (h : Apart x y) : y ≠ [] := by
  obtain ⟨b, hb, -⟩ := h.right
  rintro rfl
  simp at hb

/-- A rest of a text ends as the text does. -/
theorem mem_of_suffix {x p : List Char} {a : Char} (hp : p <:+ x) (hne : p ≠ [])
    (ha : a ∈ x.getLast?) : a ∈ p := by
  obtain ⟨front, rfl⟩ := hp
  rw [List.getLast?_append_of_ne_nil front hne] at ha
  exact List.mem_of_getLast? ha

/-- No rest of the one text goes on as a rest of the other does. -/
theorem Apart.eq_nil {x y p t rest : List Char} (h : Apart x y) (hp : p <:+ x) (ht : t <:+ y)
    (hne : t ≠ []) (hpre : p <+: t ++ rest) : p = [] := by
  by_contra hp'
  obtain ⟨a, ha, hay⟩ := h.left
  obtain ⟨b, hb, hbx⟩ := h.right
  rcases List.prefix_or_prefix_of_prefix hpre (List.prefix_append t rest) with hin | hin
  · exact hay (ht.subset (hin.subset (mem_of_suffix hp hp' ha)))
  · exact hbx (hp.subset (hin.subset (mem_of_suffix ht hne hb)))

theorem addressLine_eq (port : String) :
    (addressLine port).toList = "const wsUrl = 'ws://' + window.location.hostname + ':".toList ++
      port.toList ++ "/' + clientId;".toList :=
  String.toList_append.trans (congrArg (· ++ _) String.toList_append)

/-- No port makes an address line that overlaps with the placeholder of the server. -/
theorem apart_servers_address (port : Nat) :
    Apart Slot.servers.placeholder (addressLine (toString port)).toList := by
  constructor
  · refine ⟨']', by decide +kernel, ?_⟩
    have hport : ']' ∉ (toString port).toList := by
      rw [Nat.toString_eq_repr, Nat.toList_repr]
      intro h
      exact absurd (Nat.isDigit_of_mem_toDigits (by omega) (by omega) h) (by decide)
    rw [addressLine_eq, List.mem_append, List.mem_append, not_or, not_or]
    exact ⟨⟨by decide +kernel, hport⟩, by decide +kernel⟩
  · refine ⟨';', ?_, by decide +kernel⟩
    have hne : "/' + clientId;".toList ≠ [] := by decide +kernel
    rw [addressLine_eq, List.getLast?_append_of_ne_nil _ hne]
    decide +kernel

theorem apart_placeholders {s t : Slot} (h : s ≠ t) : Apart s.placeholder t.placeholder := by
  cases s <;> cases t
  · exact absurd rfl h
  · exact (apart_servers_address 8001).symm
  · exact apart_servers_address 8001
  · exact absurd rfl h

theorem Slot.placeholder_ne_nil (s : Slot) : s.placeholder ≠ [] := by
  cases s <;> decide +kernel

/-- A placeholder does not begin inside itself. -/
theorem Slot.eq_of_suffix_of_prefix {s : Slot} {t rest : List Char} (ht : t <:+ s.placeholder)
    (hne : t ≠ []) (hpre : s.placeholder <+: t ++ rest) : t = s.placeholder := by
  -- An occurrence inside would be a border, and neither placeholder has one.
  have hborder : ∀ s : Slot, ∀ t ∈ s.placeholder.tails, t <+: s.placeholder →
      t ≠ [] → t = s.placeholder := by
    intro s
    cases s <;> decide +kernel
  apply hborder s t ((List.mem_tails t _).mpr ht) _ hne
  exact List.prefix_of_prefix_length_le (List.prefix_append t rest) hpre ht.length_le

/-- A placeholder begins inside no placeholder, unless it is that one as a whole. -/
theorem Slot.begins_in {s s' : Slot} {t rest : List Char} (ht : t <:+ s'.placeholder)
    (hne : t ≠ []) (hpre : s.placeholder <+: t ++ rest) : s' = s ∧ t = s'.placeholder := by
  by_cases h : s = s'
  · subst h
    exact ⟨rfl, Slot.eq_of_suffix_of_prefix ht hne hpre⟩
  · exact absurd ((apart_placeholders h).eq_nil List.suffix_rfl ht hne hpre) s.placeholder_ne_nil

/-! ## Taking a template apart -/

/-- A text that is cut in two ways: the second cut comes no earlier than the first, or before it. -/
theorem append_eq_append_split {x rest before y : List Char} (h : x ++ rest = before ++ y) :
    (∃ before', before = x ++ before' ∧ rest = before' ++ y) ∨
      ∃ t, t ≠ [] ∧ x = before ++ t ∧ y = t ++ rest := by
  rcases List.append_eq_append_iff.mp h with hx | ⟨t, ht, hy⟩
  · exact .inl hx
  · by_cases hne : t = []
    · subst hne
      rw [List.append_nil] at ht
      rw [List.nil_append] at hy
      exact .inl ⟨[], by rw [List.append_nil, ht], hy.symm⟩
    · exact .inr ⟨t, hne, ht, hy⟩

/-- No placeholder begins at a character that counts as another one. -/
inductive Settled : List Part → Prop
  | nil : Settled []
  | other (c : Char) (parts : List Part)
      (h : ∀ s : Slot, ¬ s.placeholder <+: c :: textOf Slot.placeholder parts)
      (hrest : Settled parts) : Settled (.other c :: parts)
  | slot (s : Slot) (parts : List Part) (hrest : Settled parts) : Settled (.slot s :: parts)

theorem exists_settled (template : List Char) :
    ∃ parts, Settled parts ∧ template = textOf Slot.placeholder parts := by
  induction h : template.length using Nat.strong_induction_on generalizing template with
  | _ n ih =>
  subst h
  by_cases hs : ∃ s : Slot, s.placeholder <+: template
  · obtain ⟨s, rest, rfl⟩ := hs
    have hpos := List.length_pos_of_ne_nil s.placeholder_ne_nil
    obtain ⟨parts, hparts, rfl⟩ := ih rest.length (by rw [List.length_append]; omega) rest rfl
    exact ⟨.slot s :: parts, .slot s parts hparts, rfl⟩
  · cases template with
    | nil => exact ⟨[], .nil, rfl⟩
    | cons c rest =>
      obtain ⟨parts, hparts, rfl⟩ := ih rest.length (Nat.lt_succ_self _) rest rfl
      exact ⟨.other c :: parts, .other c parts (not_exists.mp hs) hparts, rfl⟩

theorem Settled.dissects {parts : List Part} (h : Settled parts) :
    Dissects parts (textOf Slot.placeholder parts) := by
  refine ⟨rfl, fun s before behind ↦ ?_⟩
  induction h generalizing before with
  | nil =>
    intro heq
    simp [s.placeholder_ne_nil] at heq
  | other c parts hc _ ih =>
    intro heq
    cases before with
    | nil => exact absurd ⟨behind, heq.symm⟩ (hc s)
    | cons d before =>
      rw [textOf_other, List.cons_append, List.cons_append, List.cons.injEq] at heq
      obtain ⟨ps, qs, rfl, rfl, hqs⟩ := ih before heq.2
      exact ⟨.other c :: ps, qs, rfl, by rw [textOf_other, heq.1], hqs⟩
  | slot s' parts _ ih =>
    intro heq
    rw [textOf_slot, List.append_assoc] at heq
    rcases append_eq_append_split heq with ⟨before', rfl, hrest⟩ | ⟨t, hne, ht, hrest⟩
    · rw [← List.append_assoc] at hrest
      obtain ⟨ps, qs, rfl, rfl, hqs⟩ := ih before' hrest
      exact ⟨.slot s' :: ps, qs, rfl, rfl, hqs⟩
    · -- The occurrence begins inside this slot, so it is this slot.
      obtain ⟨rfl, rfl⟩ := Slot.begins_in ⟨before, ht.symm⟩ hne ⟨behind, hrest⟩
      have hbefore : before = [] := List.append_left_eq_self.mp ht.symm
      have hbehind : behind = textOf Slot.placeholder parts := List.append_cancel_left hrest
      exact ⟨[], parts, rfl, hbefore, hbehind⟩

/-! ## One slot after the other -/

/-- What was found last is passed over. -/
theorem replaceFrom_skip (pattern replacement front rest : List Char) :
    replaceFrom pattern replacement front.length (front ++ rest) =
      replaceFrom pattern replacement 0 rest := by
  induction front with
  | nil => rfl
  | cons c front ih => exact ih

theorem replaceFrom_found {pattern : List Char} (hne : pattern ≠ [])
    (replacement rest : List Char) : replaceFrom pattern replacement 0 (pattern ++ rest) =
      replacement ++ replaceFrom pattern replacement 0 rest := by
  cases pattern with
  | nil => exact absurd rfl hne
  | cons c pattern =>
    have hfound : (c :: pattern).isPrefixOf (c :: (pattern ++ rest)) = true :=
      List.isPrefixOf_iff_prefix.mpr (List.prefix_append (c :: pattern) rest)
    rw [List.cons_append, replaceFrom, if_pos hfound, List.length_cons, Nat.add_sub_cancel,
      replaceFrom_skip]

/-- Where the pattern does not begin, the text stays. -/
theorem replaceFrom_keeps {pattern replacement front rest : List Char}
    (h : ∀ t, t <:+ front → t ≠ [] → ¬ pattern <+: t ++ rest) :
    replaceFrom pattern replacement 0 (front ++ rest) =
      front ++ replaceFrom pattern replacement 0 rest := by
  induction front with
  | nil => rfl
  | cons c front ih =>
    have hc : ¬ pattern.isPrefixOf (c :: (front ++ rest)) = true := by
      rw [List.isPrefixOf_iff_prefix]
      exact h (c :: front) List.suffix_rfl (List.cons_ne_nil c front)
    rw [List.cons_append, replaceFrom, if_neg hc, List.cons_append,
      ih fun t ht ↦ h t (ht.trans (List.suffix_cons c front))]

section OneSlot

variable (texts : Slot → List Char) (s : Slot) (htext : texts s = s.placeholder)
  (hothers : ∀ s', s' ≠ s → Apart s.placeholder (texts s'))

include htext hothers

/-- Texts in the other slots make up no beginning of a placeholder. -/
theorem begins_placeholders {parts : List Part} {p : List Char} (hp : p <:+ s.placeholder)
    (hpre : p <+: textOf texts parts) : p <+: textOf Slot.placeholder parts := by
  induction parts generalizing p with
  | nil => exact hpre
  | cons part parts ih =>
    cases part with
    | other c =>
      cases p with
      | nil => exact List.nil_prefix
      | cons d p =>
        rw [textOf_other, List.cons_prefix_cons] at hpre ⊢
        exact ⟨hpre.1, ih ((List.suffix_cons d p).trans hp) hpre.2⟩
    | slot s' =>
      rw [textOf_slot] at hpre ⊢
      by_cases hs : s' = s
      · subst hs
        rw [htext] at hpre
        rcases List.prefix_or_prefix_of_prefix hpre (List.prefix_append _ _) with hin | ⟨q, rfl⟩
        · exact hin.trans (List.prefix_append _ _)
        · rw [List.prefix_append_right_inj] at hpre ⊢
          exact ih ((List.suffix_append _ q).trans hp) hpre
      · -- Nothing of the placeholder fits into another slot, so nothing of it is left.
        rw [(hothers s' hs).eq_nil hp List.suffix_rfl (hothers s' hs).right_ne_nil hpre]
        exact List.nil_prefix

/-- Replacing one placeholder fills its slot and leaves everything else, whatever the other slots
hold by then. -/
theorem replaceFrom_slot {parts : List Part} (h : Settled parts) (filled : List Char) :
    replaceFrom s.placeholder filled 0 (textOf texts parts) =
      textOf (Function.update texts s filled) parts := by
  induction h with
  | nil => rfl
  | other c parts hc _ ih =>
    have hnot : ¬ s.placeholder.isPrefixOf (c :: textOf texts parts) = true := by
      rw [List.isPrefixOf_iff_prefix]
      intro hpre
      have hbegins : s.placeholder <+: textOf texts (.other c :: parts) := hpre
      exact hc s (begins_placeholders texts s htext hothers List.suffix_rfl hbegins)
    rw [textOf_other, replaceFrom, if_neg hnot, ih, textOf_other]
  | slot s' parts _ ih =>
    rw [textOf_slot, textOf_slot]
    by_cases hs : s' = s
    · subst hs
      rw [htext, replaceFrom_found s'.placeholder_ne_nil, ih, Function.update_self]
    · rw [replaceFrom_keeps, ih, Function.update_of_ne hs]
      intro t ht hne hpre
      exact s.placeholder_ne_nil ((hothers s' hs).eq_nil List.suffix_rfl ht hne hpre)

end OneSlot

theorem Contents.filling_eq (c : Contents) :
    Function.update (Function.update Slot.placeholder .address (c.filling .address)) .servers
      (c.filling .servers) = c.filling := by
  funext s
  cases s <;> rfl

/-- The script is the template with every slot filled. -/
theorem Contents.script_filled (c : Contents) (template : String) :
    ∃ parts, Dissects parts template.toList ∧
      (c.script template).toList = textOf c.filling parts := by
  obtain ⟨parts, hparts, htemplate⟩ := exists_settled template.toList
  refine ⟨parts, htemplate ▸ hparts.dissects, ?_⟩
  have haddress := replaceFrom_slot Slot.placeholder .address rfl
    (fun s' hs ↦ apart_placeholders (Ne.symm hs)) hparts (c.filling .address)
  let addressed := Function.update Slot.placeholder .address (c.filling .address)
  have hothers : ∀ s' : Slot, s' ≠ .servers → Apart Slot.servers.placeholder (addressed s') := by
    intro s' hs
    cases s' with
    | address => exact apart_servers_address c.signalingPort
    | servers => exact absurd rfl hs
  have hservers := replaceFrom_slot addressed .servers rfl hothers hparts (c.filling .servers)
  rw [c.filling_eq] at hservers
  rw [Contents.script, replaceAll, replaceAll, String.toList_ofList, String.toList_ofList,
    htemplate]
  exact (congrArg _ haddress).trans hservers

end LiveCamera.Page
