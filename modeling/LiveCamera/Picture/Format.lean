import LiveCamera.Picture.Size
import LiveCamera.Text.Case

/-!
# Pixel formats

A camera delivers a luma plane followed by interleaved chroma at half resolution; overlays are
packed pixels. The size of a buffer follows from format and picture size alone.
-/

namespace LiveCamera

/-- How the pixels of a picture are laid out. -/
inductive PixelFormat
  /-- A luma plane, then interleaved V and U. -/
  | nv21
  /-- A luma plane, then interleaved U and V. -/
  | nv12
  /-- Four octets a pixel: blue, green, red, alpha. -/
  | bgra8888
  /-- Three octets a pixel: red, green, blue. -/
  | rgb888
  /-- One octet a pixel. -/
  | grey
  deriving DecidableEq, Repr, Inhabited

namespace PixelFormat

def name : PixelFormat → String
  | nv21 => "NV21"
  | nv12 => "NV12"
  | bgra8888 => "BGRA8888"
  | rgb888 => "RGB888"
  | grey => "GREY"

/-- Octets per pixel of a packed format; none for a format in planes. -/
def bytesPerPixel : PixelFormat → Option Nat
  | nv21 => none
  | nv12 => none
  | bgra8888 => some 4
  | rgb888 => some 3
  | grey => some 1

/-- Whether chroma lies in a plane of its own. -/
def isSemiPlanar (f : PixelFormat) : Bool := f.bytesPerPixel.isNone

/-- Octets of one picture; chroma in a plane of its own adds half the luma plane, rounded down. -/
def frameSize (f : PixelFormat) (s : Size) : Nat :=
  match f.bytesPerPixel with
  | none => s.pixels * 3 / 2
  | some n => s.pixels * n

/-- The format of a name, in any letter case; most formats have a second name. -/
def ofName? (text : String) : Option PixelFormat :=
  match Text.upper text with
  | "NV21" | "YVU420SP" => some nv21
  | "NV12" | "YUV420SP" => some nv12
  | "BGRA8888" | "BGRA" => some bgra8888
  | "RGB888" | "RGB24" => some rgb888
  | "GREY" | "GRAY" => some grey
  | _ => none

/-- What is reported for a text that names no format. -/
def unknownName (text : String) : String := "Unknown pixel format: " ++ text

end PixelFormat

end LiveCamera
