import LiveCamera.Json.Node

/-!
# Writing JSON text

The text holds no blanks. In strings only the quote, the backslash and the control characters are
escaped, the latter with a letter of their own where there is one; every other character stands for
itself.
-/

namespace LiveCamera.Json

def hexDigit (n : Nat) : Char := if n < 10 then Char.ofNat (48 + n) else Char.ofNat (87 + n)

/-- A character inside a string. -/
def escape (c : Char) : List Char :=
  if c = '"' then ['\\', '"']
  else if c = '\\' then ['\\', '\\']
  else if c.toNat < 0x20 then
    match c.toNat with
    | 8 => ['\\', 'b']
    | 9 => ['\\', 't']
    | 10 => ['\\', 'n']
    | 12 => ['\\', 'f']
    | 13 => ['\\', 'r']
    | n => ['\\', 'u', '0', '0', hexDigit (n / 16), hexDigit (n % 16)]
  else [c]

/-- A string between its quotes. -/
def quote (s : String) : List Char := '"' :: (s.toList.flatMap escape ++ ['"'])

/-- Texts one after the other, with commas in between. -/
def commaSeparated : List (List Char) → List Char
  | [] => []
  | [last] => last
  | first :: second :: rest => first ++ ',' :: commaSeparated (second :: rest)

mutual

def Datum.chars : Datum → List Char
  | .null => ['n', 'u', 'l', 'l']
  | .bool true => ['t', 'r', 'u', 'e']
  | .bool false => ['f', 'a', 'l', 's', 'e']
  | .number n => n.text
  | .string s => quote s
  | .list items => '[' :: (commaSeparated (charsOfItems items) ++ [']'])
  | .record members => '\x7b' :: (commaSeparated (charsOfMembers members) ++ ['\x7d'])

def charsOfItems : List Datum → List (List Char)
  | [] => []
  | item :: rest => item.chars :: charsOfItems rest

def charsOfMembers : List (String × Datum) → List (List Char)
  | [] => []
  | (name, value) :: rest => (quote name ++ ':' :: value.chars) :: charsOfMembers rest

end

def Datum.text (d : Datum) : String := String.ofList d.chars

end LiveCamera.Json
