import LiveCamera.Association
import LiveCamera.Proofs.Json.Writing
import Mathlib.Data.String.Basic

/-!
# Data that was read

Reading puts the members of every record in the order of their names, keeps the last one of each
name, and refuses what nests too deep.  So everything that was read is tidy (`tidy_of_ofText?`).
Tidy data whose numbers are integers is written as a single line, from which the same data is read
again (`Datum.Tidy.ofText?_text`).
-/

namespace LiveCamera.Json

/-! ## Integers -/

theorem le_ofDigitChars (cs : List Char) (significand : Nat) :
    significand ≤ Nat.ofDigitChars 10 cs significand := by
  rw [Nat.ofDigitChars_eq_ofDigitChars_zero]
  calc
    significand ≤ 10 ^ cs.length * significand :=
      Nat.le_mul_of_pos_left significand (Nat.pow_pos (by decide))
    _ ≤ 10 ^ cs.length * significand + Nat.ofDigitChars 10 cs 0 := Nat.le_add_right _ _

/-- Digits are read up to the last as long as their number fits. -/
theorem extend_of_le {cs : List Char} {significand : Nat}
    (h : Nat.ofDigitChars 10 cs significand ≤ Number.maxWord) :
    Number.extend significand cs = (Nat.ofDigitChars 10 cs significand, []) := by
  induction cs generalizing significand with
  | nil => rfl
  | cons c rest ih =>
    have hcons : Nat.ofDigitChars 10 (c :: rest) significand =
        Nat.ofDigitChars 10 rest (significand * 10 + Number.digit c) := by
      rw [Nat.ofDigitChars_cons, Nat.mul_comm]
      rfl
    rw [hcons] at h ⊢
    have hfits : ¬Number.maxWord < significand * 10 + Number.digit c :=
      Nat.not_lt.mpr (Nat.le_trans (le_ofDigitChars rest _) h)
    rw [Number.extend, if_neg hfits, ih h]

theorem extend_digits {n : Nat} (h : n ≤ Number.maxWord) :
    Number.extend 0 (Number.digits n) = (n, []) := by
  have hvalue : Nat.ofDigitChars 10 (Number.digits n) 0 = n :=
    Nat.ofDigitChars_toDigits (by decide) (by decide)
  have hextend := extend_of_le (hvalue.symm ▸ h : _ ≤ Number.maxWord)
  rwa [hvalue] at hextend

theorem number?_digits {n : Nat} (h : n ≤ Number.maxWord) :
    NumberText.number? ⟨false, Number.digits n, none, none⟩ = some (.int n) := by
  simp only [NumberText.number?, Number.ofText, extend_digits h, Bool.false_eq_true, if_false]

/-- Whether a number is an integer of 64 bits, with a sign or without. -/
def Number.IsWord : Number → Prop
  | .int value => -9223372036854775808 ≤ value ∧ value ≤ maxWord
  | .double _ => False

theorem Number.IsWord.exists_parts {number : Number} (h : number.IsWord) :
    ∃ text, number.parts? = some text ∧ text.number? = some number := by
  rcases number with ⟨n | n⟩ | bits
  · have hfits : n ≤ maxWord := Int.ofNat_le.mp h.2
    exact ⟨_, rfl, number?_digits hfits⟩
  · have hlow : n + 1 ≤ 9223372036854775808 := by
      have := h.1
      omega
    have hfits : n + 1 ≤ maxWord := hlow.trans (by decide)
    have hsigned : ¬(n + 1 = 0 ∨ 9223372036854775808 < n + 1) := by omega
    refine ⟨_, rfl, ?_⟩
    simp only [NumberText.number?, ofText, extend_digits hfits, if_true, if_neg hsigned]
    rfl
  · exact h.elim

/-! ## Members in order -/

section Members

variable {α : Type} {members : List (String × α)} {name : String} {value : α}

/-- Members in the order of their names, each name once. -/
def InOrder (members : List (String × α)) : Prop := members.Pairwise fun a b ↦ a.1 < b.1

theorem mem_insertMember {member : String × α} (h : member ∈ insertMember name value members) :
    member = (name, value) ∨ member ∈ members := by
  induction members with
  | nil => exact .inl (List.mem_singleton.mp h)
  | cons first rest ih =>
    rw [insertMember] at h
    split_ifs at h
    · exact List.mem_cons.mp h
    · exact (List.mem_cons.mp h).imp_right (List.mem_cons_of_mem first)
    · rcases List.mem_cons.mp h with rfl | h
      · exact .inr List.mem_cons_self
      · exact (ih h).imp_right (List.mem_cons_of_mem first)

/-- What holds of the members and of one more holds of all of them together. -/
theorem forall_mem_insertMember {p : String × α → Prop} (hnew : p (name, value))
    (h : ∀ member ∈ members, p member) : ∀ member ∈ insertMember name value members, p member := by
  intro member hmember
  rcases mem_insertMember hmember with rfl | hmember
  · exact hnew
  · exact h member hmember

theorem InOrder.insertMember (h : InOrder members) (name : String) (value : α) :
    InOrder (insertMember name value members) := by
  induction members with
  | nil => exact List.pairwise_singleton _ _
  | cons first rest ih =>
    obtain ⟨hfirst, hrest⟩ := List.pairwise_cons.mp h
    rw [Json.insertMember]
    split_ifs with hbefore hsame
    · refine List.pairwise_cons.mpr ⟨?_, h⟩
      intro member hmember
      rcases List.mem_cons.mp hmember with rfl | hmember
      · exact hbefore
      · exact hbefore.trans (hfirst member hmember)
    · exact List.pairwise_cons.mpr ⟨hsame ▸ hfirst, hrest⟩
    · have hbehind : first.1 < name := lt_of_le_of_ne (not_lt.mp hbefore) (Ne.symm hsame)
      exact List.pairwise_cons.mpr ⟨forall_mem_insertMember hbehind hfirst, ih hrest⟩

/-- A name behind all others goes to the end. -/
theorem insertMember_of_forall_lt (h : ∀ member ∈ members, member.1 < name) :
    insertMember name value members = members ++ [(name, value)] := by
  induction members with
  | nil => rfl
  | cons first rest ih =>
    have hfirst := h first List.mem_cons_self
    rw [insertMember, if_neg hfirst.not_gt, if_neg hfirst.ne',
      ih fun member hmember ↦ h member (List.mem_cons_of_mem first hmember)]
    rfl

theorem lookup_insertMember (name : String) (value : α) (members : List (String × α))
    (other : String) :
    (insertMember name value members).lookup other =
      if other = name then some value else members.lookup other := by
  induction members with
  | nil => exact lookup_cons_eq_ite name value [] other
  | cons first rest ih =>
    obtain ⟨key, stored⟩ := first
    by_cases hbefore : name < key
    · rw [insertMember, if_pos hbefore, lookup_cons_eq_ite]
    by_cases hsame : name = key
    · subst hsame
      rw [insertMember, if_neg hbefore, if_pos rfl, lookup_cons_eq_ite, lookup_cons_eq_ite]
      split_ifs <;> rfl
    · rw [insertMember, if_neg hbefore, if_neg hsame, lookup_cons_eq_ite, lookup_cons_eq_ite, ih]
      by_cases hkey : other = key
      · have hother : ¬other = name := fun heq ↦ hsame (heq.symm.trans hkey)
        simp only [if_pos hkey, if_neg hother]
      · simp only [if_neg hkey]

/-- Of two members with one name the second one counts. -/
theorem insertMember_insertMember (name : String) (value other : α)
    (members : List (String × α)) :
    insertMember name value (insertMember name other members) =
      insertMember name value members := by
  induction members with
  | nil => simp [insertMember]
  | cons first rest ih =>
    by_cases hbefore : name < first.1
    · simp [insertMember, hbefore]
    · by_cases hsame : name = first.1
      · simp [insertMember, hsame]
      · simp [insertMember, hbefore, hsame, ih]

end Members

/-! ## Tidy data -/

/-- Data as it is read: in every record the members are in order, and lists and records are at most
`depth` deep. -/
inductive Datum.Tidy : Nat → Datum → Prop
  | null {depth : Nat} : Tidy depth .null
  | bool {depth : Nat} (value : Bool) : Tidy depth (.bool value)
  | number {depth : Nat} (value : Number) : Tidy depth (.number value)
  | string {depth : Nat} (text : String) : Tidy depth (.string text)
  | list {depth : Nat} {items : List Datum} (h : ∀ item ∈ items, Tidy depth item) :
      Tidy (depth + 1) (.list items)
  | record {depth : Nat} {members : List (String × Datum)} (hnames : InOrder members)
      (h : ∀ member ∈ members, Tidy depth member.2) : Tidy (depth + 1) (.record members)

theorem datumItems?_cons_eq_some {depth : Nat} {node : Node} {rest : List Node}
    {items : List Datum} :
    datumItems? depth (node :: rest) = some items ↔
      ∃ first others, node.datum? depth = some first ∧ datumItems? depth rest = some others ∧
        items = first :: others := by
  simp only [datumItems?, bind, Option.bind_eq_some_iff, pure, Option.some.injEq]
  grind

theorem datumMembers?_cons_eq_some {depth : Nat} {read members : List (String × Datum)}
    {name : Option String} {node : Node} {rest : List (Option String × Node)} :
    datumMembers? depth read ((name, node) :: rest) = some members ↔
      ∃ text value, name = some text ∧ node.datum? depth = some value ∧
        datumMembers? depth (insertMember text value read) rest = some members := by
  simp only [datumMembers?, bind, Option.bind_eq_some_iff]
  grind

mutual

theorem Node.tidy_of_datum? (node : Node) {depth : Nat} {d : Datum}
    (h : node.datum? depth = some d) : d.Tidy depth := by
  match node, depth with
  | .null, _ =>
    rw [Node.datum?] at h
    exact Option.some.inj h ▸ .null
  | .bool value, _ =>
    rw [Node.datum?] at h
    exact Option.some.inj h ▸ .bool value
  | .number text, _ =>
    rw [Node.datum?] at h
    obtain ⟨value, -, rfl⟩ := Option.map_eq_some_iff.mp h
    exact .number value
  | .string text, _ =>
    rw [Node.datum?] at h
    obtain ⟨value, -, rfl⟩ := Option.map_eq_some_iff.mp h
    exact .string value
  | .list items, 0 => simp [Node.datum?] at h
  | .list items, depth + 1 =>
    rw [Node.datum?] at h
    obtain ⟨data, hdata, rfl⟩ := Option.map_eq_some_iff.mp h
    exact .list (tidy_of_datumItems? items hdata)
  | .record members, 0 => simp [Node.datum?] at h
  | .record members, depth + 1 =>
    rw [Node.datum?] at h
    obtain ⟨data, hdata, rfl⟩ := Option.map_eq_some_iff.mp h
    obtain ⟨hnames, hvalues⟩ := tidy_of_datumMembers? members hdata .nil (by simp)
    exact .record hnames hvalues

theorem tidy_of_datumItems? (nodes : List Node) {depth : Nat} {items : List Datum}
    (h : datumItems? depth nodes = some items) : ∀ item ∈ items, item.Tidy depth := by
  match nodes with
  | [] =>
    rw [datumItems?] at h
    obtain rfl : [] = items := Option.some.inj h
    simp
  | node :: rest =>
    obtain ⟨first, others, hfirst, hothers, rfl⟩ := datumItems?_cons_eq_some.mp h
    have htidy := Node.tidy_of_datum? node hfirst
    have hrest := tidy_of_datumItems? rest hothers
    simpa using ⟨htidy, hrest⟩

theorem tidy_of_datumMembers? (nodes : List (Option String × Node)) {depth : Nat}
    {read members : List (String × Datum)} (h : datumMembers? depth read nodes = some members)
    (hnames : InOrder read) (hread : ∀ member ∈ read, member.2.Tidy depth) :
    InOrder members ∧ ∀ member ∈ members, member.2.Tidy depth := by
  match nodes with
  | [] =>
    rw [datumMembers?] at h
    obtain rfl : read = members := Option.some.inj h
    exact ⟨hnames, hread⟩
  | (name, node) :: rest =>
    obtain ⟨text, value, -, hvalue, hrest⟩ := datumMembers?_cons_eq_some.mp h
    have htidy := Node.tidy_of_datum? node hvalue
    exact tidy_of_datumMembers? rest hrest (hnames.insertMember text value)
      (forall_mem_insertMember htidy hread)

end

/-- Whatever was read is tidy. -/
theorem tidy_of_ofText? {text : String} {d : Datum} (h : Datum.ofText? text = some d) :
    d.Tidy nestingLimit := by
  obtain ⟨node, -, hnode⟩ := Option.bind_eq_some_iff.mp h
  exact node.tidy_of_datum? hnode

/-! ## Data that is read again -/

/-- Data whose numbers are integers of 64 bits. -/
inductive Datum.Whole : Datum → Prop
  | null : Whole .null
  | bool (value : Bool) : Whole (.bool value)
  | number {value : Number} (h : value.IsWord) : Whole (.number value)
  | string (text : String) : Whole (.string text)
  | list {items : List Datum} (h : ∀ item ∈ items, Whole item) : Whole (.list items)
  | record {members : List (String × Datum)} (h : ∀ member ∈ members, Whole member.2) :
      Whole (.record members)

/-- Items that are read again one by one are read again as a list. -/
theorem exists_nodesOfItems {depth : Nat} {items : List Datum}
    (h : ∀ item ∈ items, ∃ node, item.node? = some node ∧ node.datum? depth = some item) :
    ∃ nodes, nodesOfItems? items = some nodes ∧ datumItems? depth nodes = some items := by
  induction items with
  | nil => exact ⟨[], by rw [nodesOfItems?], by rw [datumItems?]⟩
  | cons item rest ih =>
    obtain ⟨node, hnode, hitem⟩ := h item List.mem_cons_self
    obtain ⟨nodes, hnodes, hitems⟩ := ih fun other hother ↦
      h other (List.mem_cons_of_mem item hother)
    exact ⟨node :: nodes, nodesOfItems?_cons_eq_some.mpr ⟨node, nodes, hnode, hnodes, rfl⟩,
      datumItems?_cons_eq_some.mpr ⟨item, rest, hitem, hitems, rfl⟩⟩

/-- Members in order go one by one behind those that were read before. -/
theorem exists_nodesOfMembers {depth : Nat} {members read : List (String × Datum)}
    (hnames : InOrder (read ++ members))
    (h : ∀ member ∈ members, ∃ node, member.2.node? = some node ∧
      node.datum? depth = some member.2) :
    ∃ nodes, nodesOfMembers? members = some nodes ∧
      datumMembers? depth read nodes = some (read ++ members) := by
  induction members generalizing read with
  | nil => exact ⟨[], by rw [nodesOfMembers?], by rw [datumMembers?, List.append_nil]⟩
  | cons member rest ih =>
    obtain ⟨name, value⟩ := member
    obtain ⟨node, hnode, hvalue⟩ := h (name, value) List.mem_cons_self
    obtain ⟨-, -, hbehind⟩ := List.pairwise_append.mp hnames
    have hinsert : insertMember name value read = read ++ [(name, value)] :=
      insertMember_of_forall_lt fun other hother ↦ hbehind other hother _ List.mem_cons_self
    have hsplit : read ++ (name, value) :: rest = (read ++ [(name, value)]) ++ rest := by simp
    have hmoved : InOrder ((read ++ [(name, value)]) ++ rest) := hsplit ▸ hnames
    obtain ⟨nodes, hnodes, hmembers⟩ := ih hmoved fun other hother ↦
      h other (List.mem_cons_of_mem _ hother)
    refine ⟨(some name, node) :: nodes,
      nodesOfMembers?_cons_eq_some.mpr ⟨node, nodes, hnode, hnodes, rfl⟩,
      datumMembers?_cons_eq_some.mpr ⟨name, value, rfl, hvalue, ?_⟩⟩
    rw [hinsert, hmembers, hsplit]

theorem Datum.Tidy.exists_node {depth : Nat} {d : Datum} (h : d.Tidy depth) (hwhole : d.Whole) :
    ∃ node, d.node? = some node ∧ node.datum? depth = some d := by
  induction h with
  | null => exact ⟨.null, by rw [Datum.node?], by rw [Node.datum?]⟩
  | bool value => exact ⟨.bool value, by rw [Datum.node?], by rw [Node.datum?]⟩
  | number value =>
    cases hwhole with
    | number hword =>
      obtain ⟨text, hparts, hnumber⟩ := hword.exists_parts
      exact ⟨.number text, by rw [Datum.node?, hparts, Option.map_some],
        by rw [Node.datum?, hnumber, Option.map_some]⟩
  | string text =>
    exact ⟨.string (some text), by rw [Datum.node?], by rw [Node.datum?, Option.map_some]⟩
  | list _ ih =>
    cases hwhole with
    | list hitems =>
      obtain ⟨nodes, hnodes, hdata⟩ := exists_nodesOfItems fun item hitem ↦
        ih item hitem (hitems item hitem)
      exact ⟨.list nodes, by rw [Datum.node?, hnodes, Option.map_some],
        by rw [Node.datum?, hdata, Option.map_some]⟩
  | @record _ members hnames _ ih =>
    cases hwhole with
    | record hvalues =>
      have hempty : InOrder ([] ++ members) := hnames
      obtain ⟨nodes, hnodes, hdata⟩ := exists_nodesOfMembers hempty fun member hmember ↦
        ih member hmember (hvalues member hmember)
      exact ⟨.record nodes, by rw [Datum.node?, hnodes, Option.map_some],
        by rw [Node.datum?, hdata, Option.map_some, List.nil_append]⟩

/-- The text of tidy data is read as that data, if its numbers are integers. -/
theorem Datum.Tidy.ofText?_text {d : Datum} (h : d.Tidy nestingLimit) (hwhole : d.Whole) :
    Datum.ofText? d.text = some d := by
  obtain ⟨node, hnode, hdatum⟩ := h.exists_node hwhole
  rw [Datum.ofText?, Json.ofText?_text hnode, Option.bind_some, hdatum]

/-! ## One line -/

/-- The first character that is no control character. -/
def firstPrintable : Nat := 0x20

theorem printable_of_all {chars : List Char}
    (h : chars.all (firstPrintable ≤ ·.toNat) = true) : ∀ c ∈ chars, firstPrintable ≤ c.toNat := by
  simpa using h

theorem printable_of_mem_escape {c d : Char} (h : d ∈ escape c) : firstPrintable ≤ d.toNat := by
  by_cases hcontrol : c.toNat < 0x20
  · obtain ⟨n, hn, rfl⟩ : ∃ n < 0x20, c = Char.ofNat n :=
      ⟨c.toNat, hcontrol, (Char.ofNat_toNat c).symm⟩
    refine printable_of_all ?_ d h
    interval_cases n <;> decide
  · unfold escape at h
    split_ifs at h
    · exact printable_of_all (by decide) d h
    · exact printable_of_all (by decide) d h
    · obtain rfl := List.mem_singleton.mp h
      exact Nat.not_lt.mp hcontrol

theorem printable_of_mem_quote {s : String} {c : Char} (h : c ∈ quote s) :
    firstPrintable ≤ c.toNat := by
  rw [quote, List.mem_cons, List.mem_append, List.mem_flatMap, List.mem_singleton] at h
  rcases h with rfl | ⟨d, -, hd⟩ | rfl
  · decide
  · exact printable_of_mem_escape hd
  · decide

theorem printable_of_isDigit {c : Char} (h : c.isDigit = true) : firstPrintable ≤ c.toNat := by
  obtain ⟨k, hk, rfl⟩ := Number.exists_of_isDigit h
  interval_cases k <;> decide

theorem mem_commaSeparated {parts : List (List Char)} {c : Char} (h : c ∈ commaSeparated parts) :
    c = ',' ∨ ∃ part ∈ parts, c ∈ part := by
  induction parts with
  | nil => cases h
  | cons first rest ih =>
    cases rest with
    | nil => exact .inr ⟨first, List.mem_cons_self, h⟩
    | cons second rest =>
      rw [commaSeparated, List.mem_append, List.mem_cons] at h
      rcases h with h | rfl | h
      · exact .inr ⟨first, List.mem_cons_self, h⟩
      · exact .inl rfl
      · rcases ih h with rfl | ⟨part, hpart, hc⟩
        · exact .inl rfl
        · exact .inr ⟨part, List.mem_cons_of_mem first hpart, hc⟩

theorem mem_charsOfItems {items : List Datum} {part : List Char} (h : part ∈ charsOfItems items) :
    ∃ item ∈ items, part = item.chars := by
  induction items with
  | nil => simp [charsOfItems] at h
  | cons item rest ih =>
    rw [charsOfItems, List.mem_cons] at h
    rcases h with rfl | h
    · exact ⟨item, List.mem_cons_self, rfl⟩
    · obtain ⟨other, hother, rfl⟩ := ih h
      exact ⟨other, List.mem_cons_of_mem item hother, rfl⟩

theorem mem_charsOfMembers {members : List (String × Datum)} {part : List Char}
    (h : part ∈ charsOfMembers members) :
    ∃ member ∈ members, part = quote member.1 ++ ':' :: member.2.chars := by
  induction members with
  | nil => simp [charsOfMembers] at h
  | cons member rest ih =>
    obtain ⟨name, value⟩ := member
    rw [charsOfMembers, List.mem_cons] at h
    rcases h with rfl | h
    · exact ⟨(name, value), List.mem_cons_self, rfl⟩
    · obtain ⟨other, hother, rfl⟩ := ih h
      exact ⟨other, List.mem_cons_of_mem _ hother, rfl⟩

/-- Data without doubles is written without control characters. -/
theorem Datum.Whole.printable {d : Datum} (h : d.Whole) :
    ∀ c ∈ d.chars, firstPrintable ≤ c.toNat := by
  induction h with
  | null =>
    rw [Datum.chars]
    exact printable_of_all (by decide)
  | bool value =>
    cases value <;> rw [Datum.chars] <;> exact printable_of_all (by decide)
  | @number value hword =>
    intro c hc
    rcases value with ⟨n | n⟩ | bits
    · rw [Datum.chars, Number.text] at hc
      exact printable_of_isDigit (Number.isDigit_of_mem_digits hc)
    · rw [Datum.chars, Number.text, List.mem_cons] at hc
      rcases hc with rfl | hc
      · decide
      · exact printable_of_isDigit (Number.isDigit_of_mem_digits hc)
    · exact hword.elim
  | string text =>
    intro c hc
    rw [Datum.chars] at hc
    exact printable_of_mem_quote hc
  | list _ ih =>
    intro c hc
    rw [Datum.chars, List.mem_cons, List.mem_append, List.mem_singleton] at hc
    rcases hc with rfl | hc | rfl
    · decide
    · rcases mem_commaSeparated hc with rfl | ⟨part, hpart, hc⟩
      · decide
      · obtain ⟨item, hitem, rfl⟩ := mem_charsOfItems hpart
        exact ih item hitem c hc
    · decide
  | record _ ih =>
    intro c hc
    rw [Datum.chars, List.mem_cons, List.mem_append, List.mem_singleton] at hc
    rcases hc with rfl | hc | rfl
    · decide
    · rcases mem_commaSeparated hc with rfl | ⟨part, hpart, hc⟩
      · decide
      · obtain ⟨member, hmember, rfl⟩ := mem_charsOfMembers hpart
        rw [List.mem_append, List.mem_cons] at hc
        rcases hc with hc | rfl | hc
        · exact printable_of_mem_quote hc
        · decide
        · exact ih member hmember c hc
    · decide

end LiveCamera.Json
