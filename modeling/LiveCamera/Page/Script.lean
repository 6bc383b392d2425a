import LiveCamera.Text.Blank

/-!
# The viewer script

The script of the viewer page is a template with two placeholders, one for the address of the
signaling endpoint and one for the ICE server. Both are replaced wherever they occur.
-/

namespace LiveCamera.Page

/-- The text with every occurrence of `pattern` replaced, from left to right without overlaps.
`skip` counts the characters that still belong to the occurrence found last. -/
def replaceFrom (pattern replacement : List Char) : Nat → List Char → List Char
  | _, [] => []
  | skip + 1, _ :: rest => replaceFrom pattern replacement skip rest
  | 0, c :: rest =>
    if pattern.isPrefixOf (c :: rest) then
      replacement ++ replaceFrom pattern replacement (pattern.length - 1) rest
    else c :: replaceFrom pattern replacement 0 rest

/-- The text with every occurrence of a nonempty pattern replaced. -/
def replaceAll (text pattern replacement : String) : String :=
  String.ofList (replaceFrom pattern.toList replacement.toList 0 text.toList)

/-- The line that builds the address of the signaling endpoint. -/
def addressLine (port : String) : String :=
  "const wsUrl = 'ws://' + window.location.hostname + ':" ++ port ++ "/' + clientId;"

/-- The place of the address of the signaling endpoint. -/
def addressPlaceholder : String := addressLine "8001"

/-- The part that names an ICE server. -/
def serverPart (server : String) : String :=
  "iceServers: [\x7b urls: ['" ++ server ++ "'] \x7d]"

/-- The place of the ICE server. -/
def serverPlaceholder : String := serverPart "stun:stun.l.google.com:19302"

/-- What a page is filled with. -/
structure Contents where
  signalingPort : Nat
  /-- Blank for none. -/
  iceServer : String
  deriving DecidableEq, Repr

namespace Contents

/-- The part that names the ICE server, if there is one. -/
def servers (c : Contents) : String :=
  if Text.isBlankText c.iceServer then "iceServers: []" else serverPart (Text.trim c.iceServer)

/-- The script with both placeholders filled. -/
def script (c : Contents) (template : String) : String :=
  replaceAll (replaceAll template addressPlaceholder (addressLine (toString c.signalingPort)))
    serverPlaceholder c.servers

end Contents

end LiveCamera.Page
