import LiveCamera.Settings.Schema

/-!
# Addresses of the viewer page
-/

namespace LiveCamera.Page

def address (host : String) (port : Nat) : String := "http://" ++ host ++ ":" ++ toString port

/-- The host of the device itself. -/
def loopback : String := "127.0.0.1"

/-- The addresses under which a page is found that is served on `host`. One that is served on every
interface is found under the address of each, or only on the device itself if there is none. -/
def addresses (interfaces : List String) (host : String) (port : Nat) : List String :=
  if host ≠ StreamSettings.anyAddress then [address host port]
  else if interfaces.isEmpty then [address loopback port]
  else interfaces.map (address · port)

end LiveCamera.Page
