import LiveCamera.Text.Lines

/-!
# Candidates in session descriptions

The network of a device often has IPv6 addresses that a viewer cannot reach. Candidates with such an
address are told by their colons: the compressed form has two in a row, and the full form has more
than a candidate with an IPv4 address can have.
-/

namespace LiveCamera.Sdp

/-- How a candidate line begins. -/
def candidateMark : List Char := "a=candidate:".toList

/-- The most colons on a candidate line without an IPv6 address. -/
def lineColons : Nat := 5

/-- The most colons in a candidate without an IPv6 address. -/
def candidateColons : Nat := 2

/-- Whether two colons stand in a row. -/
def hasDoubleColon : List Char → Bool
  | a :: b :: rest => (a == ':' && b == ':') || hasDoubleColon (b :: rest)
  | _ => false

/-- Whether a line of a description is a candidate with an IPv6 address. -/
def isIpv6Line (line : List Char) : Bool :=
  candidateMark.isPrefixOf line && (hasDoubleColon line || lineColons < line.count ':')

/-- Whether a candidate by itself has an IPv6 address. -/
def isIpv6Candidate (candidate : List Char) : Bool :=
  hasDoubleColon candidate || candidateColons < candidate.count ':'

/-- The lines of a description that are advertised. -/
def keptLines (sdp : List Char) : List (List Char) :=
  ((Text.lines sdp).map Text.dropReturn).filter fun line ↦ !isIpv6Line line

/-- A description without its IPv6 candidates; every line ends in carriage return and line feed. -/
def withoutIpv6 (sdp : String) : String :=
  String.ofList ((keptLines sdp.toList).flatMap fun line ↦ line ++ ['\r', '\n'])

end LiveCamera.Sdp
