import LiveCamera.Json.Node

/-!
# Reading records with known fields

A record whose fields are known may be written with its field names, in any order and with names in
between that are not known, or as a list of the values in the order of the fields. A known name must
not be repeated, and a list must not be longer than the fields.
-/

namespace LiveCamera.Json

namespace Node

/-- A string that is text. -/
def text? : Node → Option String
  | .string text => text
  | _ => none

def bool? : Node → Option Bool
  | .bool b => some b
  | _ => none

/-- An integer from zero up to `limit`, written without fraction and exponent. -/
def nat? (limit : Nat) : Node → Option Nat
  | .number t =>
    match t.number? with
    | some (.int (.ofNat n)) => if n ≤ limit then some n else none
    | _ => none
  | _ => none

/-- The value of the only member with this name; nothing if there is none, and a refusal if there
are several. -/
def member? (name : String) (members : List (Option String × Node)) : Option (Option Node) :=
  match members.filter (fun m ↦ m.1 == some name) with
  | [] => some none
  | [m] => some (some m.2)
  | _ => none

/-- The values of the fields with the given names, as far as they are there. -/
def fields? (names : List String) : Node → Option (List (Option Node))
  | .record members =>
    if members.any (·.1.isNone) then none else names.mapM fun name ↦ member? name members
  | .list items =>
    if names.length < items.length then none
    else some (items.map some ++ List.replicate (names.length - items.length) none)
  | _ => none

/-- The name of a case without contents: the name as a string, or a record with that one member,
which is null. -/
def case? : Node → Option String
  | .string text => text
  | .record [(name, .null)] => name
  | _ => none

end Node

/-- The value of a field that has to be there. -/
def required {α : Type} (read : Node → Option α) : Option Node → Option α
  | none => none
  | some node => read node

/-- The value of a field that may be missing. -/
def optional {α : Type} (default : α) (read : Node → Option α) : Option Node → Option α
  | none => some default
  | some node => read node

def maxWord16 : Nat := 65535

def maxWord32 : Nat := 4294967295

def maxWord64 : Nat := 18446744073709551615

end LiveCamera.Json
