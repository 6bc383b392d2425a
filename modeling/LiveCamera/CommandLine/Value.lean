import LiveCamera.Picture.Size
import LiveCamera.Text.Blank

/-!
# Values on the command line
-/

namespace LiveCamera.CommandLine

/-- The number that decimal digits make up; at least one digit is needed. -/
def digits? (cs : List Char) : Option Nat :=
  if cs.isEmpty || !cs.all (·.isDigit) then none
  else some (cs.foldl (fun n c ↦ n * 10 + (c.toNat - '0'.toNat)) 0)

/-- A number between zero and `most`, possibly with a sign. Zero may be negative. -/
def number? (most : Nat) (text : String) : Option Nat :=
  match text.toList with
  | '+' :: rest => (digits? rest).filter (· ≤ most)
  | '-' :: rest => (digits? rest).filter (· = 0)
  | cs => (digits? cs).filter (· ≤ most)

/-- One side of a picture size: a number of 32 bits, possibly with a plus sign and blanks around
it. -/
def side? (cs : List Char) : Option Nat :=
  let digits :=
    match Text.trimChars cs with
    | '+' :: rest => rest
    | rest => rest
  (digits? digits).filter (· < 4294967296)

/-- What stands on both sides of the first `x`, in upper or lower case. -/
def splitSides? (cs : List Char) : Option (List Char × List Char) :=
  match cs.dropWhile fun c ↦ c != 'x' && c != 'X' with
  | [] => none
  | _ :: rest => some (cs.takeWhile fun c ↦ c != 'x' && c != 'X', rest)

/-- The picture size that a text says, or what is wrong with it. -/
def size? (text : String) : Except String Size :=
  match splitSides? text.toList with
  | none => .error ("Expected WIDTHxHEIGHT, got " ++ text)
  | some (width, height) =>
    match side? width, side? height with
    | none, _ => .error ("Invalid width: " ++ String.ofList width)
    | _, none => .error ("Invalid height: " ++ String.ofList height)
    | some w, some h => .ok ⟨w, h⟩

/-- How much the program says about its work. -/
inductive LogLevel
  | error
  | warn
  | info
  | verbose
  | debug
  | trace
  deriving DecidableEq, Repr

namespace LogLevel

def name : LogLevel → String
  | error => "error"
  | warn => "warn"
  | info => "info"
  | verbose => "verbose"
  | debug => "debug"
  | trace => "trace"

def all : List LogLevel := [error, warn, info, verbose, debug, trace]

def ofName? (name : String) : Option LogLevel := all.find? (·.name == name)

end LogLevel

end LiveCamera.CommandLine
