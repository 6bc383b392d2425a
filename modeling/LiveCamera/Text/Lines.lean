/-!
# Lines of a text

A line ends in a line feed, which a carriage return may precede; neither belongs to the line. The
last line may lack its end, and an empty rest behind the last line feed is no line.
-/

namespace LiveCamera.Text

/-- A line without the carriage return at its end. -/
def dropReturn (line : List Char) : List Char :=
  if line.getLast? = some '\r' then line.dropLast else line

/-- The lines of a text. The characters read since the last line feed stand reversed in front. -/
def linesFrom (read : List Char) : List Char → List (List Char)
  | [] => if read.isEmpty then [] else [read.reverse]
  | c :: rest =>
    if c = '\n' then dropReturn read.reverse :: linesFrom [] rest else linesFrom (c :: read) rest

def lines (cs : List Char) : List (List Char) := linesFrom [] cs

end LiveCamera.Text
