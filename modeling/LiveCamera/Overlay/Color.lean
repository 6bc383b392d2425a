import LiveCamera.Bytes

/-!
# Overlay colours
-/

namespace LiveCamera

/-- A colour with opacity, one octet each. -/
structure Color where
  r : UInt8
  g : UInt8
  b : UInt8
  a : UInt8
  deriving DecidableEq, Repr, Inhabited

namespace Color

def rgb (r g b : UInt8) : Color := ⟨r, g, b, 255⟩

def red : Color := rgb 255 0 0

def green : Color := rgb 0 255 0

def blue : Color := rgb 0 0 255

def white : Color := rgb 255 255 255

/-- The colour of a word with opacity, red, green and blue from the most significant octet down. -/
def ofWord (word : UInt32) : Color :=
  ⟨(word >>> 16).toUInt8, (word >>> 8).toUInt8, word.toUInt8, (word >>> 24).toUInt8⟩

/-- The four octets of one pixel on a canvas. -/
def pixel (c : Color) : Bytes := [c.b, c.g, c.r, c.a]

@[simp] theorem length_pixel (c : Color) : c.pixel.length = 4 := rfl

end Color

end LiveCamera
