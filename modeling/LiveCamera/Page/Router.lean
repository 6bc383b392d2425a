import LiveCamera.Page.Files
import LiveCamera.Page.Script

/-!
# Serving the viewer page

The page is served under two paths and its script under a third. Only these are known, and they can
only be read.
-/

namespace LiveCamera.Page

structure Response where
  status : Nat
  contentType : Option String
  cacheControl : Option String
  body : String
  deriving DecidableEq, Repr

namespace Response

/-- A file that is to be asked for again every time. -/
def file (contentType body : String) : Response := ⟨200, some contentType, some "no-cache", body⟩

/-- An answer that is only a status. -/
def bare (status : Nat) : Response := ⟨status, none, none, ""⟩

end Response

/-- What stands under a path. -/
def resource? (contents : Contents) (path : String) : Option Response :=
  if path = "/" ∨ path = "/index.html" then some (.file "text/html" indexText)
  else if path = "/client.js" then some (.file "text/javascript" (contents.script clientText))
  else none

/-- The path of a target, without the query behind it. -/
def pathOf (target : String) : String :=
  String.ofList (target.toList.takeWhile (· != '?'))

/-- The answer to a request. Asking for the head alone gets everything but the body. -/
def respond (contents : Contents) (method target : String) : Response :=
  match resource? contents (pathOf target) with
  | none => .bare 404
  | some response =>
    if method = "GET" then response
    else if method = "HEAD" then { response with body := "" }
    else .bare 405

end LiveCamera.Page
