/-!
# Picture sizes

Widths and heights are counted in pixels and stay below 2³² wherever a size comes from outside.
-/

namespace LiveCamera

/-- Width and height of a picture in pixels. -/
structure Size where
  width : Nat
  height : Nat
  deriving DecidableEq, Repr, Inhabited

namespace Size

def pixels (s : Size) : Nat := s.width * s.height

/-- Written as in `1280x720`. -/
def text (s : Size) : String := toString s.width ++ "x" ++ toString s.height

def vga : Size := ⟨640, 480⟩

def hd720 : Size := ⟨1280, 720⟩

def hd1080 : Size := ⟨1920, 1080⟩

end Size

end LiveCamera
