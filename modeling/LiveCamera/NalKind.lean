import LiveCamera.Bytes
import LiveCamera.Codec

/-!
# Kinds of NAL units

The first octet of a unit carries its type, in five bits for H.264 and in six for H.265. Units with
picture data end an access unit; some of them can be decoded without any earlier picture.
-/

namespace LiveCamera.Codec

/-- The type of a unit, from its first octet. -/
def unitType? (codec : Codec) : Bytes → Option Nat
  | [] => none
  | first :: _ =>
    match codec with
    | h264 => some (first &&& 0x1F).toNat
    | h265 => some ((first >>> 1) &&& 0x3F).toNat

/-- Whether a unit carries picture data. -/
def isPicture (codec : Codec) (unit : Bytes) : Bool :=
  match codec, codec.unitType? unit with
  | _, none => false
  | h264, some t => 1 ≤ t && t ≤ 5
  | h265, some t => t ≤ 31

/-- Whether a unit carries a picture that needs no earlier one. -/
def isKeyPicture (codec : Codec) (unit : Bytes) : Bool :=
  match codec, codec.unitType? unit with
  | _, none => false
  | h264, some t => t == 5
  | h265, some t => 16 ≤ t && t ≤ 21

/-- A picture that needs no earlier one is a picture. -/
theorem isPicture_of_isKeyPicture {codec : Codec} {unit : Bytes}
    (h : codec.isKeyPicture unit = true) : codec.isPicture unit = true := by
  unfold isKeyPicture at h
  unfold isPicture
  cases codec <;> cases hu : unitType? _ unit <;> simp_all
  omega

end LiveCamera.Codec
