import LiveCamera.Json.Reader
import LiveCamera.Json.Writer
import Mathlib.Tactic.IntervalCases

/-!
# Reading what was written

The text of any data without doubles is read back (`ofText?_text`): as the node that `Datum.node?`
builds along the data.  Since a number ends only with the character behind it, a reader at the end
of a value need not be behind it yet; `Completes` says that it may as well be.
-/

namespace LiveCamera.Json

/-! ## Strings -/

/-- How a character is read back: the control characters without a letter of their own by their
number. -/
def piece (c : Char) : Piece :=
  if c.toNat < 0x20 ∧ c.toNat ∉ [8, 9, 10, 12, 13] then .unit c.toNat else .char c

/-- A unit that is not half of a surrogate pair makes up a character by itself. -/
theorem joinPieces_unit {n : Nat} (hn : n < 0xD800) (rest : List Piece) :
    joinPieces (.unit n :: rest) = (joinPieces rest).map (Char.ofNat n :: ·) := by
  have hhigh : ¬(0xD800 ≤ n ∧ n < 0xDC00) := by omega
  have hlow : ¬(0xDC00 ≤ n ∧ n < 0xE000) := by omega
  have hpair : ¬(0xD800 ≤ n ∧ n < 0xE000) := by omega
  rcases rest with _ | ⟨_ | low, rest⟩
  · simp only [joinPieces, if_neg hpair]
  · simp only [joinPieces, if_neg hpair]
  · rw [joinPieces, if_neg hhigh, if_neg hlow]

theorem joinPieces_piece (c : Char) (rest : List Piece) :
    joinPieces (piece c :: rest) = (joinPieces rest).map (c :: ·) := by
  unfold piece
  split_ifs with hcontrol
  · rw [joinPieces_unit (by omega), Char.ofNat_toNat]
  · rw [joinPieces]

theorem joinPieces_map_piece (cs : List Char) : joinPieces (cs.map piece) = some cs := by
  induction cs with
  | nil => rfl
  | cons c cs ih => rw [List.map_cons, joinPieces_piece, ih, Option.map_some]

namespace Reader

variable {around : List Enclosing} {isName : Bool} {read : List Piece}

theorem feed_cons (r : Reader) (c : Char) (cs : List Char) :
    r.feed (c :: cs) = (r.step c).bind fun next ↦ next.feed cs := rfl

/-- A character is read back from its escape. -/
theorem feed_escape (c : Char) :
    feed ⟨.string isName .plain read, around⟩ (escape c) =
      some ⟨.string isName .plain (piece c :: read), around⟩ := by
  by_cases hcontrol : c.toNat < 0x20
  · obtain ⟨n, hn, rfl⟩ : ∃ n < 0x20, c = Char.ofNat n :=
      ⟨c.toNat, hcontrol, (Char.ofNat_toNat c).symm⟩
    interval_cases n <;> rfl
  · by_cases hquote : c = '"'
    · subst hquote
      rfl
    by_cases hbackslash : c = '\\'
    · subst hbackslash
      rfl
    have hpiece : piece c = .char c := if_neg fun h ↦ hcontrol h.1
    have hescape : escape c = [c] := by
      simp only [escape, if_neg hquote, if_neg hbackslash, if_neg hcontrol]
    have hstep : step ⟨.string isName .plain read, around⟩ c =
        some ⟨.string isName .plain (.char c :: read), around⟩ := by
      simp only [step, stepPlace, stepString, if_neg hquote, if_neg hbackslash, if_neg hcontrol]
    rw [hescape, hpiece, feed_cons, hstep]
    rfl

theorem feed_escapes (cs : List Char) :
    feed ⟨.string isName .plain read, around⟩ (cs.flatMap escape) =
      some ⟨.string isName .plain ((cs.map piece).reverse ++ read), around⟩ := by
  induction cs generalizing read with
  | nil => rfl
  | cons c cs ih =>
    rw [List.flatMap_cons, feed_append, feed_escape, Option.bind_some, ih, List.map_cons,
      List.reverse_cons, List.append_assoc]
    rfl

/-- The text of a string up to its closing quote is read back. -/
theorem feed_string (s : String) :
    feed ⟨.string isName .plain [], around⟩ (s.toList.flatMap escape ++ ['"']) =
      endString isName (s.toList.map piece).reverse around := by
  rw [feed_append, feed_escapes, List.append_nil, Option.bind_some, feed_cons]
  have hstep : step ⟨.string isName .plain (s.toList.map piece).reverse, around⟩ '"' =
      endString isName (s.toList.map piece).reverse around := by
    simp only [step, stepPlace, stepString, if_true]
  rw [hstep]
  cases endString isName (s.toList.map piece).reverse around <;> rfl

/-- A string is read back as a value. -/
theorem feed_quote (s : String) :
    feed ⟨.value, around⟩ (quote s) = some (deliver (.string (some s)) around) := by
  have hstep : step ⟨.value, around⟩ '"' = some ⟨.string false .plain [], around⟩ := rfl
  rw [quote, feed_cons, hstep, Option.bind_some, feed_string, endString, List.reverse_reverse,
    joinPieces_map_piece, Option.map_some, String.ofList_toList]

/-- A string is read back as the name of a member. -/
theorem feed_quote_name (s : String) (members : List (Option String × Node)) :
    feed ⟨.name, .record members :: around⟩ (quote s) =
      some ⟨.colon, .member members (some s) :: around⟩ := by
  have hstep : step ⟨.name, .record members :: around⟩ '"' =
      some ⟨.string true .plain [], .record members :: around⟩ := rfl
  rw [quote, feed_cons, hstep, Option.bind_some, feed_string, endString, List.reverse_reverse,
    joinPieces_map_piece, Option.map_some, String.ofList_toList]

end Reader

/-! ## Numbers -/

/-- The text of an integer, taken apart. -/
def Number.parts? : Number → Option NumberText
  | .int (.ofNat n) => some ⟨false, Number.digits n, none, none⟩
  | .int (.negSucc n) => some ⟨true, Number.digits (n + 1), none, none⟩
  | .double _ => none

namespace Number

theorem isDigit_of_mem_digits {n : Nat} {c : Char} (h : c ∈ digits n) : c.isDigit = true :=
  Nat.isDigit_of_mem_toDigits (by decide) (by decide) h

theorem exists_of_isDigit {c : Char} (h : c.isDigit = true) :
    ∃ k < 10, c = Char.ofNat (48 + k) := by
  have hbounds : 48 ≤ c.toNat ∧ c.toNat ≤ 57 := Char.isDigit_iff_toNat.mp h
  refine ⟨c.toNat - 48, by omega, ?_⟩
  rw [show 48 + (c.toNat - 48) = c.toNat by omega, Char.ofNat_toNat]

theorem digits_ne_nil (n : Nat) : digits n ≠ [] := Nat.toDigits_ne_nil

/-- Only zero is written with a zero in front. -/
theorem exists_digits_eq_cons {n : Nat} (hn : n ≠ 0) :
    ∃ c cs, digits n = c :: cs ∧ c ≠ '0' := by
  induction n using Nat.strongRecOn with
  | ind n ih =>
    unfold digits at *
    by_cases hsmall : n < 10
    · refine ⟨_, [], Nat.toDigits_of_lt_base hsmall, ?_⟩
      interval_cases n <;> first | exact absurd rfl hn | decide
    · obtain ⟨c, cs, hdigits, hc⟩ := ih (n / 10) (by omega) (by omega)
      refine ⟨c, cs ++ [(n % 10).digitChar], ?_, hc⟩
      rw [Nat.toDigits_of_base_le (by decide) (by omega), hdigits, List.cons_append]

end Number

theorem exists_commaSeparated_cons (first : List Char) (rest : List (List Char)) :
    ∃ tail, commaSeparated (first :: rest) = first ++ tail := by
  cases rest with
  | nil => exact ⟨[], (List.append_nil first).symm⟩
  | cons second rest => exact ⟨_, rfl⟩

namespace Reader

variable {around : List Enclosing}

/-- The digits behind the first one of a whole number are read one after the other. -/
theorem feed_digits {n : OpenNumber} (hphase : n.phase = .whole) {cs : List Char}
    (hcs : ∀ c ∈ cs, c.isDigit = true) :
    feed ⟨.number n, around⟩ cs =
      some ⟨.number { n with whole := cs.reverse ++ n.whole }, around⟩ := by
  induction cs generalizing n with
  | nil => rfl
  | cons c cs ih =>
    have hdigit : ('0' ≤ c && c ≤ '9') = true := hcs c List.mem_cons_self
    have hstep : step ⟨.number n, around⟩ c =
        some ⟨.number { n with whole := c :: n.whole }, around⟩ := by
      simp only [step, OpenNumber.step, hphase, hdigit, if_true]
    have hrest := ih (n := { n with whole := c :: n.whole }) hphase fun d hd ↦
      hcs d (List.mem_cons_of_mem c hd)
    rw [feed_cons, hstep, Option.bind_some, hrest, List.reverse_cons, List.append_assoc]
    rfl

/-- A reader at the end of a value: the text may end here, and a character that ends values is read
as behind this one. -/
structure Completes (r : Reader) (value : Node) (around : List Enclosing) : Prop where
  settle : r.settle = some (deliver value around)
  step : ∀ c, c = ',' ∨ c = ']' ∨ c = '\x7d' → r.step c = (deliver value around).step c

theorem completes_deliver (value : Node) (around : List Enclosing) :
    (deliver value around).Completes value around where
  settle := by rcases around with _ | ⟨_ | _ | _, around⟩ <;> rfl
  step _ _ := rfl

/-- A number that may end here. -/
theorem completes_number {n : OpenNumber} (hphase : n.phase = .zero ∨ n.phase = .whole)
    {text : NumberText} (htext : n.finish = some text) :
    Completes ⟨.number n, around⟩ (.number text) around := by
  have hsettle : settle ⟨.number n, around⟩ = some (deliver (.number text) around) := by
    simp only [settle, htext, Option.map_some]
  refine ⟨hsettle, ?_⟩
  intro c hc
  have hstop : n.step c = none := by
    rcases hphase with hphase | hphase <;> rcases hc with rfl | rfl | rfl <;>
      simp only [OpenNumber.step, hphase] <;> rfl
  have hplace : (deliver (.number text) around).step c =
      (deliver (.number text) around).stepPlace c := by
    rcases around with _ | ⟨_ | _ | _, around⟩ <;> rfl
  rw [hplace]
  simp only [step, hstop, hsettle, Option.bind_some]

/-- Digits without a zero in front, or a single zero, are read as a number. -/
theorem exists_feed_digits (negative : Bool) (n : Nat) :
    ∃ r, feed ⟨.number (.start negative), around⟩ (Number.digits n) = some r ∧
      r.Completes (.number ⟨negative, Number.digits n, none, none⟩) around := by
  by_cases hn : n = 0
  · subst hn
    exact ⟨⟨.number { OpenNumber.start negative with phase := .zero, whole := ['0'] }, around⟩, rfl,
      completes_number (.inl rfl) rfl⟩
  · obtain ⟨c, cs, hdigits, hc⟩ := Number.exists_digits_eq_cons hn
    have hall : ∀ d ∈ c :: cs, d.isDigit = true := by
      intro d hd
      exact Number.isDigit_of_mem_digits (hdigits ▸ hd)
    have hdigit : ('0' ≤ c && c ≤ '9') = true := hall c List.mem_cons_self
    have hstep : step ⟨.number (.start negative), around⟩ c =
        some ⟨.number { OpenNumber.start negative with phase := .whole, whole := [c] },
          around⟩ := by
      simp only [step, OpenNumber.step, OpenNumber.start, if_neg hc, hdigit, if_true]
    rw [hdigits, feed_cons, hstep, Option.bind_some,
      feed_digits rfl fun d hd ↦ hall d (List.mem_cons_of_mem c hd)]
    refine ⟨_, rfl, completes_number (.inr rfl) ?_⟩
    simp [OpenNumber.finish, OpenNumber.start]

/-- A number without a sign may begin wherever a value may. -/
theorem feed_value_digits (n : Nat) :
    feed ⟨.value, around⟩ (Number.digits n) =
      feed ⟨.number (.start false), around⟩ (Number.digits n) := by
  obtain ⟨c, cs, hdigits⟩ := List.exists_cons_of_ne_nil (Number.digits_ne_nil n)
  have hdigit := Number.isDigit_of_mem_digits (hdigits ▸ List.mem_cons_self)
  have hstep : step ⟨.value, around⟩ c = step ⟨.number (.start false), around⟩ c := by
    obtain ⟨k, hk, rfl⟩ := Number.exists_of_isDigit hdigit
    interval_cases k <;> rfl
  rw [hdigits, feed_cons, feed_cons, hstep]

end Reader

/-! ## Lists and records -/

mutual

/-- The node that the text of data is read as; nothing for data with a double. -/
def Datum.node? : Datum → Option Node
  | .null => some .null
  | .bool value => some (.bool value)
  | .number value => value.parts?.map .number
  | .string text => some (.string (some text))
  | .list items => (nodesOfItems? items).map .list
  | .record members => (nodesOfMembers? members).map .record

def nodesOfItems? : List Datum → Option (List Node)
  | [] => some []
  | item :: rest => do
    let first ← item.node?
    let others ← nodesOfItems? rest
    return first :: others

def nodesOfMembers? : List (String × Datum) → Option (List (Option String × Node))
  | [] => some []
  | (name, value) :: rest => do
    let first ← value.node?
    let others ← nodesOfMembers? rest
    return (some name, first) :: others

end

theorem nodesOfItems?_cons_eq_some {item : Datum} {rest : List Datum} {nodes : List Node} :
    nodesOfItems? (item :: rest) = some nodes ↔
      ∃ first others, item.node? = some first ∧ nodesOfItems? rest = some others ∧
        nodes = first :: others := by
  simp only [nodesOfItems?, bind, Option.bind_eq_some_iff, pure, Option.some.injEq]
  grind

theorem nodesOfMembers?_cons_eq_some {name : String} {value : Datum}
    {rest : List (String × Datum)} {nodes : List (Option String × Node)} :
    nodesOfMembers? ((name, value) :: rest) = some nodes ↔
      ∃ first others, value.node? = some first ∧ nodesOfMembers? rest = some others ∧
        nodes = (some name, first) :: others := by
  simp only [nodesOfMembers?, bind, Option.bind_eq_some_iff, pure, Option.some.injEq]
  grind

namespace Reader

variable {around : List Enclosing}

/-- Reading may begin with a value behind the bracket of a list. -/
theorem feed_firstItem {c : Char} (hblank : isBlank c = false) (hc : c ≠ ']') (cs : List Char) :
    feed ⟨.firstItem, around⟩ (c :: cs) = feed ⟨.value, around⟩ (c :: cs) := by
  have hstep : step ⟨.firstItem, around⟩ c = step ⟨.value, around⟩ c := by
    simp only [step, stepPlace, hblank, Bool.false_eq_true, if_false, if_neg hc]
  rw [feed_cons, feed_cons, hstep]

/-- The name of a member is read up to its colon. -/
theorem feed_quote_colon (name : String) (members : List (Option String × Node)) (cs : List Char) :
    feed ⟨.name, .record members :: around⟩ (quote name ++ ':' :: cs) =
      feed ⟨.value, .member members (some name) :: around⟩ cs := by
  rw [feed_append, feed_quote_name, Option.bind_some]
  rfl

/-- The text of a value begins neither with a blank nor with a bracket that closes a list. -/
theorem exists_chars_eq_cons {d : Datum} {node : Node} (h : d.node? = some node) :
    ∃ c cs, d.chars = c :: cs ∧ isBlank c = false ∧ c ≠ ']' := by
  cases d with
  | null => exact ⟨_, _, rfl, by decide, by decide⟩
  | bool value => cases value <;> exact ⟨_, _, rfl, by decide, by decide⟩
  | number value =>
    rcases value with ⟨n | n⟩ | bits
    · obtain ⟨c, cs, hdigits⟩ := List.exists_cons_of_ne_nil (Number.digits_ne_nil n)
      have hdigit := Number.isDigit_of_mem_digits (hdigits ▸ List.mem_cons_self)
      refine ⟨c, cs, hdigits, ?_, ?_⟩
      · simp only [isBlank, Bool.or_eq_false_iff, decide_eq_false_iff_not]
        refine ⟨⟨⟨?_, ?_⟩, ?_⟩, ?_⟩ <;> rintro rfl <;> revert hdigit <;> decide
      · rintro rfl
        revert hdigit
        decide
    · exact ⟨_, _, rfl, by decide, by decide⟩
    · cases h
  | string text => exact ⟨_, _, rfl, by decide, by decide⟩
  | list items => exact ⟨_, _, rfl, by decide, by decide⟩
  | record members => exact ⟨_, _, rfl, by decide, by decide⟩

/-- Reading on behind a value. -/
theorem feed_append_of_completes {start r : Reader} {value : Node} {cs : List Char}
    (hread : start.feed cs = some r) (h : r.Completes value around) {c : Char}
    (hc : c = ',' ∨ c = ']' ∨ c = '\x7d') (rest : List Char) :
    start.feed (cs ++ c :: rest) = (deliver value around).feed (c :: rest) := by
  rw [feed_append, hread, Option.bind_some, feed_cons, feed_cons, h.step c hc]

end Reader

mutual

/-- The text of a value is read back wherever a value may begin. -/
theorem exists_feed_chars (d : Datum) {node : Node} (h : d.node? = some node)
    (around : List Enclosing) :
    ∃ r, (Reader.mk .value around).feed d.chars = some r ∧ r.Completes node around := by
  match d with
  | .null =>
    obtain rfl : Node.null = node := Option.some.inj h
    exact ⟨_, rfl, Reader.completes_deliver _ _⟩
  | .bool value =>
    obtain rfl : Node.bool value = node := Option.some.inj h
    cases value <;> exact ⟨_, rfl, Reader.completes_deliver _ _⟩
  | .number (.int (.ofNat n)) =>
    obtain rfl : Node.number ⟨false, Number.digits n, none, none⟩ = node := Option.some.inj h
    obtain ⟨r, hread, hcompletes⟩ := Reader.exists_feed_digits false n
    exact ⟨r, (Reader.feed_value_digits n).trans hread, hcompletes⟩
  | .number (.int (.negSucc n)) =>
    obtain rfl : Node.number ⟨true, Number.digits (n + 1), none, none⟩ = node := Option.some.inj h
    exact Reader.exists_feed_digits true (n + 1)
  | .number (.double _) => cases h
  | .string text =>
    obtain rfl : Node.string (some text) = node := Option.some.inj h
    exact ⟨_, Reader.feed_quote text, Reader.completes_deliver _ _⟩
  | .list items =>
    obtain ⟨nodes, hnodes, rfl⟩ := Option.map_eq_some_iff.mp h
    refine ⟨_, ?_, Reader.completes_deliver _ _⟩
    have hopen : (Reader.mk .value around).feed (Datum.list items).chars =
        (Reader.mk .firstItem (.list [] :: around)).feed
          (commaSeparated (charsOfItems items) ++ [']']) := rfl
    rw [hopen]
    by_cases hempty : items = []
    · subst hempty
      obtain rfl : [] = nodes := Option.some.inj hnodes
      rfl
    · have hitems := feed_items items hempty hnodes [] around
      obtain ⟨item, rest, rfl⟩ := List.exists_cons_of_ne_nil hempty
      obtain ⟨first, -, hfirst, -, -⟩ := nodesOfItems?_cons_eq_some.mp hnodes
      obtain ⟨c, cs, hchars, hblank, hc⟩ := Reader.exists_chars_eq_cons hfirst
      obtain ⟨tail, htail⟩ := exists_commaSeparated_cons item.chars (charsOfItems rest)
      rw [charsOfItems, htail, hchars] at hitems ⊢
      exact (Reader.feed_firstItem hblank hc _).trans hitems
  | .record members =>
    obtain ⟨nodes, hnodes, rfl⟩ := Option.map_eq_some_iff.mp h
    refine ⟨_, ?_, Reader.completes_deliver _ _⟩
    have hopen : (Reader.mk .value around).feed (Datum.record members).chars =
        (Reader.mk .firstName (.record [] :: around)).feed
          (commaSeparated (charsOfMembers members) ++ ['\x7d']) := rfl
    rw [hopen]
    by_cases hempty : members = []
    · subst hempty
      obtain rfl : [] = nodes := Option.some.inj hnodes
      rfl
    · have hmembers := feed_members members hempty hnodes [] around
      obtain ⟨⟨name, value⟩, rest, rfl⟩ := List.exists_cons_of_ne_nil hempty
      obtain ⟨tail, htail⟩ := exists_commaSeparated_cons (quote name ++ ':' :: value.chars)
        (charsOfMembers rest)
      rw [charsOfMembers, htail] at hmembers ⊢
      exact hmembers

/-- The items of a list are read one after the other. -/
theorem feed_items (items : List Datum) (hempty : items ≠ []) {nodes : List Node}
    (h : nodesOfItems? items = some nodes) (read : List Node) (around : List Enclosing) :
    (Reader.mk .value (.list read :: around)).feed
        (commaSeparated (charsOfItems items) ++ [']']) =
      some (Reader.deliver (.list (read.reverse ++ nodes)) around) := by
  match items with
  | [] => exact absurd rfl hempty
  | [item] =>
    obtain ⟨first, others, hfirst, hothers, rfl⟩ := nodesOfItems?_cons_eq_some.mp h
    obtain ⟨r, hread, hcompletes⟩ := exists_feed_chars item hfirst (.list read :: around)
    obtain rfl : [] = others := Option.some.inj hothers
    have hlast := Reader.feed_append_of_completes hread hcompletes (.inr (.inl rfl)) []
    calc
      _ = some (Reader.deliver (.list (first :: read).reverse) around) := hlast
      _ = _ := by rw [List.reverse_cons]
  | item :: second :: rest =>
    obtain ⟨first, others, hfirst, hothers, rfl⟩ := nodesOfItems?_cons_eq_some.mp h
    obtain ⟨r, hread, hcompletes⟩ := exists_feed_chars item hfirst (.list read :: around)
    have hnext := Reader.feed_append_of_completes hread hcompletes (.inl rfl)
      (commaSeparated (charsOfItems (second :: rest)) ++ [']'])
    have hlater := feed_items (second :: rest) (List.cons_ne_nil _ _) hothers (first :: read) around
    calc
      _ = (Reader.mk .value (.list read :: around)).feed (item.chars ++
          ',' :: (commaSeparated (charsOfItems (second :: rest)) ++ [']'])) := by
        simp only [charsOfItems, commaSeparated, List.append_assoc, List.cons_append]
      _ = (Reader.mk .value (.list (first :: read) :: around)).feed
          (commaSeparated (charsOfItems (second :: rest)) ++ [']']) := hnext
      _ = some (Reader.deliver (.list ((first :: read).reverse ++ others)) around) := hlater
      _ = _ := by rw [List.reverse_cons, List.append_assoc, List.singleton_append]

/-- The members of a record are read one after the other. -/
theorem feed_members (members : List (String × Datum)) (hempty : members ≠ [])
    {nodes : List (Option String × Node)} (h : nodesOfMembers? members = some nodes)
    (read : List (Option String × Node)) (around : List Enclosing) :
    (Reader.mk .name (.record read :: around)).feed
        (commaSeparated (charsOfMembers members) ++ ['\x7d']) =
      some (Reader.deliver (.record (read.reverse ++ nodes)) around) := by
  match members with
  | [] => exact absurd rfl hempty
  | [(name, value)] =>
    obtain ⟨first, others, hfirst, hothers, rfl⟩ := nodesOfMembers?_cons_eq_some.mp h
    obtain ⟨r, hread, hcompletes⟩ :=
      exists_feed_chars value hfirst (.member read (some name) :: around)
    obtain rfl : [] = others := Option.some.inj hothers
    have hlast := Reader.feed_append_of_completes hread hcompletes (.inr (.inr rfl)) []
    calc
      _ = (Reader.mk .name (.record read :: around)).feed
          (quote name ++ ':' :: (value.chars ++ ['\x7d'])) := by
        simp only [charsOfMembers, commaSeparated, List.append_assoc, List.cons_append]
      _ = (Reader.deliver first (.member read (some name) :: around)).feed ['\x7d'] := by
        rw [Reader.feed_quote_colon, hlast]
      _ = some (Reader.deliver (.record ((some name, first) :: read).reverse) around) := rfl
      _ = _ := by rw [List.reverse_cons]
  | (name, value) :: second :: rest =>
    obtain ⟨first, others, hfirst, hothers, rfl⟩ := nodesOfMembers?_cons_eq_some.mp h
    obtain ⟨r, hread, hcompletes⟩ :=
      exists_feed_chars value hfirst (.member read (some name) :: around)
    have hnext := Reader.feed_append_of_completes hread hcompletes (.inl rfl)
      (commaSeparated (charsOfMembers (second :: rest)) ++ ['\x7d'])
    have hlater := feed_members (second :: rest) (List.cons_ne_nil _ _) hothers
      ((some name, first) :: read) around
    calc
      _ = (Reader.mk .name (.record read :: around)).feed (quote name ++ ':' :: (value.chars ++
          ',' :: (commaSeparated (charsOfMembers (second :: rest)) ++ ['\x7d']))) := by
        simp only [charsOfMembers, commaSeparated, List.append_assoc, List.cons_append]
      _ = (Reader.mk .name (.record ((some name, first) :: read) :: around)).feed
          (commaSeparated (charsOfMembers (second :: rest)) ++ ['\x7d']) := by
        rw [Reader.feed_quote_colon, hnext]
        rfl
      _ = some (Reader.deliver (.record (((some name, first) :: read).reverse ++ others))
          around) := hlater
      _ = _ := by rw [List.reverse_cons, List.append_assoc, List.singleton_append]

end

/-- The text of data without doubles is read back. -/
theorem ofText?_text {d : Datum} {node : Node} (h : d.node? = some node) :
    Node.ofText? d.text = some node := by
  obtain ⟨r, hread, hcompletes⟩ := exists_feed_chars d h []
  have hstart : Reader.start.feed d.text.toList = some r := by
    rw [Datum.text, String.toList_ofList]
    exact hread
  rw [Node.ofText?, hstart, Option.bind_some, Reader.finish, hcompletes.settle]
  rfl

end LiveCamera.Json
