import LiveCamera.Codec
import LiveCamera.Json.Fields
import LiveCamera.Overlay.Rect
import LiveCamera.Picture.Format
import LiveCamera.Session.State
import LiveCamera.Settings.Text

/-!
# Small values as text

Values with a fixed set of cases are written by name; sizes and rectangles are records whose fields
all have to be there.
-/

namespace LiveCamera

open Json

/-- The value with the name that a node says. -/
def Json.Node.named? {α : Type} (name : α → String) (all : List α) (node : Node) : Option α :=
  node.case?.bind fun text ↦ all.find? fun a ↦ name a == text

namespace Codec

def ofNode? : Node → Option Codec := Node.named? name [h264, h265]

end Codec

namespace RateControl

def ofNode? : Node → Option RateControl := Node.named? name [cbr, vbr]

end RateControl

namespace PixelFormat

def ofNode? : Node → Option PixelFormat := Node.named? name [nv21, nv12, bgra8888, rgb888, grey]

end PixelFormat

namespace SessionState

def ofNode? : Node → Option SessionState := Node.named? name all

end SessionState

namespace ConnectionState

def ofNode? : Node → Option ConnectionState := Node.named? name all

end ConnectionState

namespace Size

def datum (s : Size) : Datum := .record [("width", .ofNat s.width), ("height", .ofNat s.height)]

def ofNode? (node : Node) : Option Size := do
  let [width, height] ← node.fields? ["width", "height"] | none
  return ⟨← required (Node.nat? maxWord32) width, ← required (Node.nat? maxWord32) height⟩

end Size

namespace Rect

def datum (r : Rect) : Datum :=
  .record [("x", .ofNat r.x), ("y", .ofNat r.y), ("w", .ofNat r.w), ("h", .ofNat r.h)]

def ofNode? (node : Node) : Option Rect := do
  let [x, y, w, h] ← node.fields? ["x", "y", "w", "h"] | none
  let coordinate := required (Node.nat? maxWord32)
  return ⟨← coordinate x, ← coordinate y, ← coordinate w, ← coordinate h⟩

end Rect

end LiveCamera
