import LiveCamera.Json.Reader
import LiveCamera.Proofs.Page.Filling
import Mathlib.Data.Bool.AllAny
import Mathlib.Data.List.TakeWhile

/-!
# The server as a string literal

`IsLiteral` says which texts are string literals of the script in single quotes and what their
values are, in UTF-16 code units and with every kind of escape.  An escape is longer than what it
stands for, so a text between quotes stands for itself exactly if each of its characters may stand
there as it is (`denotes_itself_iff`).

The script puts the server between quotes as it is.  So it carries the server that was configured
exactly if that text has neither a quote nor a backslash nor a line end
(`Contents.script_carries_server`), although every text has a literal (`isLiteral_quoted`).
-/

namespace LiveCamera.Page

/-! ## String literals -/

/-- The UTF-16 code units of a code point. -/
def pointUnits (n : Nat) : List Nat :=
  if n < 0x10000 then [n] else [0xD800 + (n - 0x10000) / 0x400, 0xDC00 + (n - 0x10000) % 0x400]

/-- The UTF-16 code units of a text. -/
def textUnits (text : List Char) : List Nat := text.flatMap fun c ↦ pointUnits c.toNat

/-- The characters that cannot stand between single quotes as they are. -/
def specials : List Char := ['\'', '\\', '\n', '\r']

/-- The letters that stand for a control character behind a backslash. -/
def controls : List (Char × Nat) :=
  [('b', 8), ('t', 9), ('n', 10), ('v', 11), ('f', 12), ('r', 13)]

/-- The line ends, which stand for nothing behind a backslash. -/
def lineEnds : List (List Char) := [['\n'], ['\r'], ['\r', '\n'], ['\u2028'], ['\u2029']]

/-- The number with those digits, if all of them are digits to that base (at most sixteen). -/
def number? (base : Nat) (digits : List Char) : Option Nat :=
  (digits.mapM fun c ↦ (Json.Reader.hexValue? c).filter (· < base)).map fun values ↦
    values.foldl (fun n d ↦ base * n + d) 0

/-- `Escape spelling behind units`: a backslash and `spelling` stand for `units` if `behind` comes
next. -/
inductive Escape : List Char → List Char → List Nat → Prop
  | control (c : Char) (unit : Nat) (h : (c, unit) ∈ controls) (behind : List Char) :
      Escape [c] behind [unit]
  /-- Quotes, the backslash and all characters without a meaning of their own. -/
  | itself (c : Char) (hcontrol : c ∉ controls.map Prod.fst) (hoctal : number? 8 [c] = none)
      (hmark : c ∉ ['x', 'u']) (hend : [c] ∉ lineEnds) (behind : List Char) :
      Escape [c] behind (pointUnits c.toNat)
  /-- As many octal digits as there are, up to three and below 256; strict mode leaves the single
  zero of them. -/
  | octal (digits behind : List Char) (n : Nat) (hne : digits ≠ []) (hlen : digits.length ≤ 3)
      (h : number? 8 digits = some n) (hn : n < 256)
      (hlast : ∀ d ∈ behind.head?, digits.length < 3 → ∀ m, number? 8 (digits ++ [d]) = some m →
        256 ≤ m) : Escape digits behind [n]
  | hex (digits behind : List Char) (n : Nat) (hlen : digits.length = 2)
      (h : number? 16 digits = some n) : Escape ('x' :: digits) behind [n]
  | unit (digits behind : List Char) (n : Nat) (hlen : digits.length = 4)
      (h : number? 16 digits = some n) : Escape ('u' :: digits) behind [n]
  | point (digits behind : List Char) (n : Nat) (hne : digits ≠ [])
      (h : number? 16 digits = some n) (hn : n ≤ 0x10FFFF) :
      Escape ('u' :: '\x7b' :: digits ++ ['\x7d']) behind (pointUnits n)
  /-- A line feed belongs to the carriage return in front of it. -/
  | lineEnd (ending behind : List Char) (h : ending ∈ lineEnds)
      (hwhole : ending = ['\r'] → behind.head? ≠ some '\n') : Escape ending behind []

/-- What stands between the quotes of a literal and what it stands for. -/
inductive Denotes : List Char → List Nat → Prop
  | nil : Denotes [] []
  | plain (c : Char) (rest : List Char) (units : List Nat) (h : c ∉ specials)
      (hrest : Denotes rest units) : Denotes (c :: rest) (pointUnits c.toNat ++ units)
  | escape (spelling rest : List Char) (escaped units : List Nat)
      (h : Escape spelling rest escaped) (hrest : Denotes rest units) :
      Denotes ('\\' :: spelling ++ rest) (escaped ++ units)

/-- The text is one string literal in single quotes, with that value. -/
def IsLiteral (text : List Char) (value : List Nat) : Prop :=
  ∃ body, text = '\'' :: body ++ ['\''] ∧ Denotes body value

/-! ## An escape is longer than its value -/

theorem length_pointUnits_pos (n : Nat) : 0 < (pointUnits n).length := by
  unfold pointUnits
  split_ifs <;> simp

theorem length_pointUnits_le (n : Nat) : (pointUnits n).length ≤ 2 := by
  unfold pointUnits
  split_ifs <;> simp

@[simp]
theorem textUnits_nil : textUnits [] = [] := rfl

@[simp]
theorem textUnits_cons (c : Char) (text : List Char) :
    textUnits (c :: text) = pointUnits c.toNat ++ textUnits text := rfl

@[simp]
theorem textUnits_append (x y : List Char) : textUnits (x ++ y) = textUnits x ++ textUnits y :=
  List.flatMap_append

theorem length_le_length_textUnits (text : List Char) : text.length ≤ (textUnits text).length := by
  induction text with
  | nil => rfl
  | cons c text ih =>
    have hpos := length_pointUnits_pos c.toNat
    rw [textUnits_cons, List.length_append, List.length_cons]
    omega

theorem Escape.length_le {spelling behind : List Char} {units : List Nat}
    (h : Escape spelling behind units) : units.length ≤ (textUnits spelling).length := by
  have hlength := length_le_length_textUnits spelling
  cases h with
  | control c unit => exact hlength
  | itself c => rw [textUnits_cons, textUnits_nil, List.append_nil]
  | octal digits behind n hne => exact (List.length_pos_of_ne_nil hne).trans_le hlength
  | hex => exact (Nat.succ_pos _).trans_le hlength
  | unit => exact (Nat.succ_pos _).trans_le hlength
  | point digits behind n =>
    apply ((length_pointUnits_le n).trans _).trans hlength
    exact Nat.succ_le_succ (Nat.succ_pos _)
  | lineEnd => exact Nat.zero_le _

/-- No literal stands for more than it is made of, and one with an escape stands for less. -/
theorem Denotes.length_le {body : List Char} {units : List Nat} (h : Denotes body units) :
    units.length ≤ (textUnits body).length ∧
      (units.length = (textUnits body).length → ∀ c ∈ body, c ∉ specials) := by
  induction h with
  | nil => exact ⟨le_rfl, by simp⟩
  | plain c rest units hc _ ih =>
    rw [textUnits_cons, List.length_append, List.length_append]
    refine ⟨Nat.add_le_add_left ih.1 _, fun heq ↦ ?_⟩
    rw [List.forall_mem_cons]
    exact ⟨hc, ih.2 (Nat.add_left_cancel heq)⟩
  | escape spelling rest escaped units h _ ih =>
    have hbackslash := length_pointUnits_pos '\\'.toNat
    have hescape := h.length_le
    rw [List.cons_append, textUnits_cons, textUnits_append]
    simp only [List.length_append]
    exact ⟨by omega, fun heq ↦ by omega⟩

theorem denotes_of_plain {text : List Char} (h : ∀ c ∈ text, c ∉ specials) :
    Denotes text (textUnits text) := by
  induction text with
  | nil => exact .nil
  | cons c text ih =>
    rw [List.forall_mem_cons] at h
    exact .plain c text _ h.1 (ih h.2)

/-- What stands between quotes stands for itself exactly if no character of it is special there. -/
theorem denotes_itself_iff (text : List Char) :
    Denotes text (textUnits text) ↔ ∀ c ∈ text, c ∉ specials :=
  ⟨fun h ↦ h.length_le.2 rfl, denotes_of_plain⟩

/-! ## Every text has a literal -/

/-- A character as it is written between quotes. -/
def quotedChar (c : Char) : List Char :=
  if c = '\n' then ['\\', 'n'] else if c = '\r' then ['\\', 'r']
  else if c ∈ specials then ['\\', c] else [c]

/-- A text as a literal. -/
def quoted (text : List Char) : List Char := '\'' :: text.flatMap quotedChar ++ ['\'']

theorem denotes_quotedChar (c : Char) {rest : List Char} {units : List Nat}
    (h : Denotes rest units) : Denotes (quotedChar c ++ rest) (pointUnits c.toNat ++ units) := by
  unfold quotedChar
  split_ifs with hfeed hreturn hspecial
  · subst hfeed
    exact .escape ['n'] rest _ units (.control 'n' 10 (by decide) rest) h
  · subst hreturn
    exact .escape ['r'] rest _ units (.control 'r' 13 (by decide) rest) h
  · have hitself : Escape [c] rest (pointUnits c.toNat) := by
      simp only [specials, List.mem_cons, List.not_mem_nil, or_false, hfeed, hreturn] at hspecial
      rcases hspecial with rfl | rfl
      · exact .itself _ (by decide) (by decide) (by decide) (by decide) rest
      · exact .itself _ (by decide) (by decide) (by decide) (by decide) rest
    exact .escape [c] rest _ units hitself h
  · exact .plain c rest units hspecial h

theorem isLiteral_quoted (text : List Char) : IsLiteral (quoted text) (textUnits text) := by
  refine ⟨text.flatMap quotedChar, rfl, ?_⟩
  induction text with
  | nil => exact .nil
  | cons c text ih => exact denotes_quotedChar c ih

/-! ## The server in the script -/

/-- The part of the script that names one server, written as `literal`. -/
def namingServer (literal : List Char) : List Char :=
  "iceServers: [\x7b urls: [".toList ++ literal ++ "] \x7d]".toList

theorem namingServer_injective : Function.Injective namingServer :=
  fun _ _ h ↦ List.append_cancel_left (List.append_cancel_right h)

theorem toList_serverPart (server : String) :
    (serverPart server).toList = namingServer ('\'' :: server.toList ++ ['\'']) := by
  have hfront : "iceServers: [\x7b urls: ['".toList =
      "iceServers: [\x7b urls: [".toList ++ ['\''] := by decide +kernel
  have hquotes (front body back : List Char) : front ++ ['\''] ++ body ++ '\'' :: back =
      front ++ ('\'' :: body ++ ['\'']) ++ back := by simp
  have hback : "'] \x7d]".toList = '\'' :: "] \x7d]".toList := by decide +kernel
  calc
    (serverPart server).toList =
        "iceServers: [\x7b urls: ['".toList ++ server.toList ++ "'] \x7d]".toList :=
      String.toList_append.trans (congrArg (· ++ _) String.toList_append)
    _ = namingServer ('\'' :: server.toList ++ ['\'']) := by
      rw [hfront, hback]
      exact hquotes _ _ _

theorem trim_of_isBlankText {s : String} (h : Text.isBlankText s = true) : Text.trim s = "" := by
  have hdrop : s.toList.dropWhile Text.isBlank = [] :=
    List.dropWhile_eq_nil_iff.mpr (List.all_eq_true.mp h)
  rw [Text.trim, Text.trimChars, hdrop]
  rfl

theorem Contents.filling_servers {c : Contents} (h : Text.trim c.iceServer ≠ "") :
    c.filling .servers =
      namingServer ('\'' :: (Text.trim c.iceServer).toList ++ ['\'']) := by
  have hblank : ¬ Text.isBlankText c.iceServer = true := fun hb ↦ h (trim_of_isBlankText hb)
  rw [Contents.filling, Contents.servers, if_neg hblank, toList_serverPart]

/-- The page writes the server as a literal of its own text, exactly if it may stand between quotes
as it is. -/
theorem Contents.servers_literal_iff {c : Contents} (h : Text.trim c.iceServer ≠ "") :
    (∃ literal, c.filling .servers = namingServer literal ∧
      IsLiteral literal (textUnits (Text.trim c.iceServer).toList)) ↔
    ∀ ch ∈ (Text.trim c.iceServer).toList, ch ∉ specials := by
  rw [← denotes_itself_iff, c.filling_servers h]
  constructor
  · rintro ⟨literal, hliteral, body, rfl, hbody⟩
    have heq := namingServer_injective hliteral
    rw [List.cons_append, List.cons_append, List.cons.injEq] at heq
    rwa [← List.append_cancel_right heq.2] at hbody
  · intro hbody
    exact ⟨_, rfl, _, rfl, hbody⟩

/-- For every port, server and template, the script is the template with every placeholder filled
and everything else as it was.  A server is written as a string literal with exactly the value that
was configured if and only if its text has no quote, no backslash and no line end. -/
theorem Contents.script_carries_server (c : Contents) (template : String) :
    (∃ parts, Dissects parts template.toList ∧
      (c.script template).toList = textOf c.filling parts) ∧
    (Text.trim c.iceServer ≠ "" →
      ((∃ literal, c.filling .servers = namingServer literal ∧
          IsLiteral literal (textUnits (Text.trim c.iceServer).toList)) ↔
        ∀ ch ∈ (Text.trim c.iceServer).toList, ch ∉ specials)) :=
  ⟨c.script_filled template, Contents.servers_literal_iff⟩

/-- A server between blanks. -/
theorem Contents.script_carries_server_own_server :
    ∃ literal,
      Contents.filling ⟨9001, " stun:stun.example.org:3478 "⟩ .servers = namingServer literal ∧
      IsLiteral literal (textUnits "stun:stun.example.org:3478".toList) := by
  have htrim : Text.trim " stun:stun.example.org:3478 " = "stun:stun.example.org:3478" := by
    decide +kernel
  have hcarried := (Contents.script_carries_server ⟨9001, " stun:stun.example.org:3478 "⟩
    (addressPlaceholder ++ serverPlaceholder)).2
  rw [htrim] at hcarried
  exact (hcarried (by decide +kernel)).mpr (List.all_iff_forall_prop.mp (by decide +kernel))

/-- A server with a quote in it is not carried: the page ends the literal at that quote, although
there is a literal for the server. -/
theorem Contents.not_always_carried :
    Contents.script ⟨8001, "stun:o'hara.example:3478"⟩ serverPlaceholder =
      "iceServers: [\x7b urls: ['stun:o'hara.example:3478'] \x7d]" ∧
    Text.trim "stun:o'hara.example:3478" = "stun:o'hara.example:3478" ∧
    (¬ ∃ literal,
      Contents.filling ⟨8001, "stun:o'hara.example:3478"⟩ .servers = namingServer literal ∧
        IsLiteral literal (textUnits "stun:o'hara.example:3478".toList)) ∧
    IsLiteral "'stun:o\\'hara.example:3478'".toList
      (textUnits "stun:o'hara.example:3478".toList) := by
  have htrim : Text.trim "stun:o'hara.example:3478" = "stun:o'hara.example:3478" := by
    decide +kernel
  have hiff := Contents.servers_literal_iff (c := ⟨8001, "stun:o'hara.example:3478"⟩)
    (by decide +kernel)
  rw [htrim] at hiff
  have hquoted : quoted "stun:o'hara.example:3478".toList =
      "'stun:o\\'hara.example:3478'".toList := by decide +kernel
  refine ⟨by decide +kernel, htrim, ?_, hquoted ▸ isLiteral_quoted _⟩
  rw [hiff]
  exact fun hplain ↦ hplain '\'' (by decide +kernel) (by decide)

end LiveCamera.Page
