import LiveCamera.Json.Number

/-!
# What a JSON text says

A node is the structure of a text before its parts are looked at: strings that are no text, numbers
out of range and repeated names are still there, because a reader that is not interested in a part
does not look at it. A datum is a part that was looked at.
-/

namespace LiveCamera.Json

/-- The text of a number, taken apart. -/
structure NumberText where
  negative : Bool
  whole : List Char
  fraction : Option (List Char)
  /-- Whether the exponent is negative, and its digits. -/
  exponent : Option (Bool × List Char)
  deriving DecidableEq, Repr, Inhabited

namespace NumberText

/-- The number a text stands for, if there is one in range. -/
def number? (t : NumberText) : Option Number :=
  Number.ofText t.negative t.whole t.fraction t.exponent

end NumberText

/-- The structure of a text. A string is nothing if its escapes do not make up characters. -/
inductive Node
  | null
  | bool (value : Bool)
  | number (text : NumberText)
  | string (text : Option String)
  | list (items : List Node)
  | record (members : List (Option String × Node))
  deriving Repr, Inhabited

/-- Data in the form of JSON. The members of a record are in the order in which they are written. -/
inductive Datum
  | null
  | bool (value : Bool)
  | number (value : Number)
  | string (text : String)
  | list (items : List Datum)
  | record (members : List (String × Datum))
  deriving Repr, Inhabited

/-- Members in the order of their names, with one more; an earlier one of the same name is
replaced. -/
def insertMember {α : Type} (name : String) (value : α) : List (String × α) → List (String × α)
  | [] => [(name, value)]
  | first :: rest =>
    if name < first.1 then (name, value) :: first :: rest
    else if name = first.1 then (name, value) :: rest
    else first :: insertMember name value rest

/-- How deep lists and records may nest in data that is looked at whole. -/
def nestingLimit : Nat := 127

mutual

/-- The data of a node in which every part is looked at. The members of records come in the order of
their names, and of those with one name the last counts. Lists and records may nest `depth` deep. -/
def Node.datum? (depth : Nat) : Node → Option Datum
  | .null => some .null
  | .bool b => some (.bool b)
  | .number t => t.number?.map .number
  | .string t => t.map .string
  | .list items =>
    match depth with
    | 0 => none
    | depth + 1 => (datumItems? depth items).map .list
  | .record members =>
    match depth with
    | 0 => none
    | depth + 1 => (datumMembers? depth [] members).map .record

def datumItems? (depth : Nat) : List Node → Option (List Datum)
  | [] => some []
  | item :: rest => do
    let first ← item.datum? depth
    let others ← datumItems? depth rest
    return first :: others

/-- The members so far with those of a list of nodes. -/
def datumMembers? (depth : Nat) (read : List (String × Datum)) :
    List (Option String × Node) → Option (List (String × Datum))
  | [] => some read
  | (name, value) :: rest => do
    let name ← name
    let value ← value.datum? depth
    datumMembers? depth (insertMember name value read) rest

end

end LiveCamera.Json
