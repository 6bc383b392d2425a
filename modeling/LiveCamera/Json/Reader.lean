import LiveCamera.Json.Node

/-!
# Reading JSON text

A reader takes a text one character at a time. It knows what it is in the middle of, and the lists
and records that are still open around it. A character that does not belong there ends the reading.
Since a number has no end mark of its own, it is finished by the first character that cannot
continue it, or by the end of the text.
-/

namespace LiveCamera.Json

/-- A part of a string: a character that stands for itself, or a UTF-16 unit given by its number. -/
inductive Piece
  | char (c : Char)
  | unit (n : Nat)
  deriving DecidableEq, Repr

/-- The characters that the parts of a string make up. Two units of a surrogate pair make up one
character; a surrogate by itself makes up none. -/
def joinPieces : List Piece → Option (List Char)
  | [] => some []
  | .char c :: rest => (joinPieces rest).map (c :: ·)
  | .unit high :: .unit low :: rest =>
    if 0xD800 ≤ high ∧ high < 0xDC00 then
      if 0xDC00 ≤ low ∧ low < 0xE000 then
        (joinPieces rest).map
          (Char.ofNat (0x10000 + (high - 0xD800) * 0x400 + (low - 0xDC00)) :: ·)
      else none
    else if 0xDC00 ≤ high ∧ high < 0xE000 then none
    else (joinPieces (.unit low :: rest)).map (Char.ofNat high :: ·)
  | .unit n :: rest =>
    if 0xD800 ≤ n ∧ n < 0xE000 then none else (joinPieces rest).map (Char.ofNat n :: ·)

/-- How far the text of a number was read. -/
inductive NumberPhase
  | sign
  | zero
  | whole
  | point
  | fraction
  | mark
  | markSign
  | exponent
  deriving DecidableEq, Repr

/-- A number in the middle of its text, its digits reversed. -/
structure OpenNumber where
  phase : NumberPhase
  negative : Bool
  whole : List Char
  fraction : List Char
  down : Bool
  exponent : List Char
  deriving DecidableEq, Repr

namespace OpenNumber

def start (negative : Bool) : OpenNumber := ⟨.sign, negative, [], [], false, []⟩

/-- The number with one more character, if that can continue it. -/
def step (n : OpenNumber) (c : Char) : Option OpenNumber :=
  let isDigit := '0' ≤ c && c ≤ '9'
  match n.phase with
  | .sign =>
    if c = '0' then some { n with phase := .zero, whole := [c] }
    else if isDigit then some { n with phase := .whole, whole := [c] }
    else none
  | .zero =>
    if c = '.' then some { n with phase := .point }
    else if c = 'e' ∨ c = 'E' then some { n with phase := .mark }
    else none
  | .whole =>
    if isDigit then some { n with whole := c :: n.whole }
    else if c = '.' then some { n with phase := .point }
    else if c = 'e' ∨ c = 'E' then some { n with phase := .mark }
    else none
  | .point => if isDigit then some { n with phase := .fraction, fraction := [c] } else none
  | .fraction =>
    if isDigit then some { n with fraction := c :: n.fraction }
    else if c = 'e' ∨ c = 'E' then some { n with phase := .mark }
    else none
  | .mark =>
    if c = '+' then some { n with phase := .markSign }
    else if c = '-' then some { n with phase := .markSign, down := true }
    else if isDigit then some { n with phase := .exponent, exponent := [c] }
    else none
  | .markSign => if isDigit then some { n with phase := .exponent, exponent := [c] } else none
  | .exponent => if isDigit then some { n with exponent := c :: n.exponent } else none

/-- The number, if it may end here. -/
def finish (n : OpenNumber) : Option NumberText :=
  let whole := n.whole.reverse
  let fraction := if n.fraction.isEmpty then none else some n.fraction.reverse
  match n.phase with
  | .zero | .whole | .fraction => some ⟨n.negative, whole, fraction, none⟩
  | .exponent => some ⟨n.negative, whole, fraction, some (n.down, n.exponent.reverse)⟩
  | _ => none

end OpenNumber

/-- A list or record that is still open, with what it holds so far in reverse. -/
inductive Enclosing
  | list (items : List Node)
  | record (members : List (Option String × Node))
  /-- A record with a name whose value is still to come. -/
  | member (members : List (Option String × Node)) (name : Option String)
  deriving Repr

/-- Where in a string a reader is. -/
inductive StringPhase
  | plain
  /-- Behind a backslash. -/
  | escaped
  /-- Behind `\u` and some of its four digits. -/
  | unit (digits value : Nat)
  deriving DecidableEq, Repr

/-- What a reader is in the middle of. -/
inductive Place
  /-- A value has to begin. -/
  | value
  /-- Behind the bracket that opens a list. -/
  | firstItem
  /-- Behind the brace that opens a record. -/
  | firstName
  /-- Behind a comma in a record. -/
  | name
  /-- Behind a name. -/
  | colon
  /-- Behind a value in a list or record. -/
  | separator
  /-- Inside `true`, `false` or `null`, with what is still to come. -/
  | word (rest : List Char) (value : Node)
  | number (reading : OpenNumber)
  /-- Inside a string, which may be the name of a member. -/
  | string (isName : Bool) (phase : StringPhase) (read : List Piece)
  /-- Behind the whole text. -/
  | done (value : Node)
  deriving Repr

/-- A reader in the middle of a text. -/
structure Reader where
  place : Place
  around : List Enclosing
  deriving Repr

namespace Reader

def start : Reader := ⟨.value, []⟩

/-- The blanks allowed between the parts of a text. -/
def isBlank (c : Char) : Bool := c = ' ' || c = '\n' || c = '\t' || c = '\r'

/-- A reader behind a complete value. -/
def deliver (value : Node) : List Enclosing → Reader
  | .list items :: around => ⟨.separator, .list (value :: items) :: around⟩
  | .member members name :: around => ⟨.separator, .record ((name, value) :: members) :: around⟩
  | around => ⟨.done value, around⟩

/-- A reader behind the first character of a value. -/
def beginValue (around : List Enclosing) (c : Char) : Option Reader :=
  if c = '"' then some ⟨.string false .plain [], around⟩
  else if c = '[' then some ⟨.firstItem, .list [] :: around⟩
  else if c = '\x7b' then some ⟨.firstName, .record [] :: around⟩
  else if c = 't' then some ⟨.word ['r', 'u', 'e'] (.bool true), around⟩
  else if c = 'f' then some ⟨.word ['a', 'l', 's', 'e'] (.bool false), around⟩
  else if c = 'n' then some ⟨.word ['u', 'l', 'l'] .null, around⟩
  else if c = '-' then some ⟨.number (.start true), around⟩
  else ((OpenNumber.start false).step c).map fun n ↦ ⟨.number n, around⟩

/-- A reader behind the closing quote of a string. -/
def endString (isName : Bool) (read : List Piece) (around : List Enclosing) : Option Reader :=
  let text := (joinPieces read.reverse).map String.ofList
  match isName, around with
  | false, _ => some (deliver (.string text) around)
  | true, .record members :: outer => some ⟨.colon, .member members text :: outer⟩
  | true, _ => none

def hexValue? (c : Char) : Option Nat :=
  if '0' ≤ c ∧ c ≤ '9' then some (c.toNat - 48)
  else if 'a' ≤ c ∧ c ≤ 'f' then some (c.toNat - 87)
  else if 'A' ≤ c ∧ c ≤ 'F' then some (c.toNat - 55)
  else none

/-- The character that a letter behind a backslash stands for. -/
def unescape? (c : Char) : Option Char :=
  match c with
  | '"' => some '"'
  | '\\' => some '\\'
  | '/' => some '/'
  | 'b' => some '\x08'
  | 'f' => some '\x0c'
  | 'n' => some '\n'
  | 'r' => some '\r'
  | 't' => some '\t'
  | _ => none

/-- A reader one character further inside a string. -/
def stepString (isName : Bool) (read : List Piece) (around : List Enclosing) (c : Char) :
    StringPhase → Option Reader
  | .plain =>
    if c = '"' then endString isName read around
    else if c = '\\' then some ⟨.string isName .escaped read, around⟩
    else if c.toNat < 0x20 then none
    else some ⟨.string isName .plain (.char c :: read), around⟩
  | .escaped =>
    if c = 'u' then some ⟨.string isName (.unit 0 0) read, around⟩
    else (unescape? c).map fun c ↦ ⟨.string isName .plain (.char c :: read), around⟩
  | .unit digits value => (hexValue? c).map fun d ↦
    if digits = 3 then ⟨.string isName .plain (.unit (value * 16 + d) :: read), around⟩
    else ⟨.string isName (.unit (digits + 1) (value * 16 + d)) read, around⟩

/-- A reader one character further behind a value. -/
def stepSeparator (around : List Enclosing) (c : Char) : Option Reader :=
  match around with
  | .list items :: outer =>
    if c = ',' then some ⟨.value, around⟩
    else if c = ']' then some (deliver (.list items.reverse) outer)
    else none
  | .record members :: outer =>
    if c = ',' then some ⟨.name, around⟩
    else if c = '\x7d' then some (deliver (.record members.reverse) outer)
    else none
  | _ => none

/-- A reader one character further, outside numbers. -/
def stepPlace (r : Reader) (c : Char) : Option Reader :=
  match r.place with
  | .string isName phase read => stepString isName read r.around c phase
  | .word (next :: rest) value =>
    if c ≠ next then none
    else if rest.isEmpty then some (deliver value r.around)
    else some ⟨.word rest value, r.around⟩
  | .word [] _ => none
  | .number _ => none
  | place =>
    if isBlank c then some r
    else
      match place with
      | .value => beginValue r.around c
      | .firstItem =>
        if c = ']' then some (deliver (.list []) r.around.tail) else beginValue r.around c
      | .firstName =>
        if c = '"' then some ⟨.string true .plain [], r.around⟩
        else if c = '\x7d' then some (deliver (.record []) r.around.tail)
        else none
      | .name => if c = '"' then some ⟨.string true .plain [], r.around⟩ else none
      | .colon => if c = ':' then some ⟨.value, r.around⟩ else none
      | .separator => stepSeparator r.around c
      | _ => none

/-- A reader behind the number that it is in the middle of, if that may end. -/
def settle (r : Reader) : Option Reader :=
  match r.place with
  | .number n => n.finish.map fun text ↦ deliver (.number text) r.around
  | _ => some r

/-- A reader one character further. -/
def step (r : Reader) (c : Char) : Option Reader :=
  match r.place with
  | .number n =>
    match n.step c with
    | some n => some ⟨.number n, r.around⟩
    | none => r.settle.bind fun settled ↦ settled.stepPlace c
  | _ => r.stepPlace c

/-- A reader behind a stretch of text. -/
def feed (r : Reader) : List Char → Option Reader
  | [] => some r
  | c :: rest => (r.step c).bind fun next ↦ next.feed rest

/-- What was read, if the text may end here. -/
def finish (r : Reader) : Option Node :=
  match r.settle with
  | some ⟨.done value, []⟩ => some value
  | _ => none

theorem feed_append (r : Reader) (a b : List Char) :
    r.feed (a ++ b) = (r.feed a).bind fun next ↦ next.feed b := by
  induction a generalizing r with
  | nil => rfl
  | cons c a ih =>
    simp only [List.cons_append, feed]
    cases r.step c with
    | none => rfl
    | some next => simpa using ih next

end Reader

/-- What a text says, if it is JSON. -/
def Node.ofText? (text : String) : Option Node :=
  (Reader.start.feed text.toList).bind Reader.finish

/-- The data of a text in which every part is looked at. -/
def Datum.ofText? (text : String) : Option Datum :=
  (Node.ofText? text).bind (·.datum? nestingLimit)

end LiveCamera.Json
