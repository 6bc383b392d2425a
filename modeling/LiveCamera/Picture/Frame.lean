import LiveCamera.Bytes
import LiveCamera.Picture.Format

/-!
# Captured pictures

A frame is one raw picture of a camera together with its place in the capture sequence.
-/

namespace LiveCamera

/-- One captured picture. -/
structure Frame where
  data : Bytes
  size : Size
  format : PixelFormat
  /-- Counts the pictures of one camera from zero. -/
  sequence : Nat
  deriving DecidableEq, Repr, Inhabited

end LiveCamera
