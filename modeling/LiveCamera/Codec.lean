import LiveCamera.Text.Blank
import LiveCamera.Text.Case

/-!
# Codecs and rate control

What an encoder produces is named by a codec and a rate-control mode. Both have a name for people, a
name in stored settings, and a set of spellings in which settings may give them.
-/

namespace LiveCamera

/-- The video codecs an encoder may produce. -/
inductive Codec
  | h264
  | h265
  deriving DecidableEq, Repr, Inhabited

namespace Codec

/-- The name shown to people. -/
def label : Codec → String
  | h264 => "H.264"
  | h265 => "H.265"

/-- The name in stored settings. -/
def name : Codec → String
  | h264 => "h264"
  | h265 => "h265"

def mediaType : Codec → String
  | h264 => "video/H264"
  | h265 => "video/H265"

def formatParameters : Codec → String
  | h264 => "level-asymmetry-allowed=1;packetization-mode=1;profile-level-id=4D0034"
  | h265 => "profile-id=1;level-id=153"

/-- The codec that a text in settings names; a failure gives the text as it was compared. -/
def ofSetting (text : String) : Except String Codec :=
  let wanted := Text.lower (Text.trim text)
  match wanted with
  | "h264" | "h.264" | "avc" => .ok h264
  | "h265" | "h.265" | "hevc" => .ok h265
  | _ => .error wanted

end Codec

/-- Whether an encoder keeps its bit rate constant or lets it vary. -/
inductive RateControl
  | cbr
  | vbr
  deriving DecidableEq, Repr, Inhabited

namespace RateControl

/-- The name shown to people. -/
def label : RateControl → String
  | cbr => "CBR"
  | vbr => "VBR"

/-- The name in stored settings. -/
def name : RateControl → String
  | cbr => "cbr"
  | vbr => "vbr"

/-- The mode that a text in settings names; a failure gives the text as it was compared. -/
def ofSetting (text : String) : Except String RateControl :=
  let wanted := Text.lower (Text.trim text)
  match wanted with
  | "cbr" => .ok cbr
  | "vbr" => .ok vbr
  | _ => .error wanted

end RateControl

/-- What an encoder is asked to produce: a codec at a rate-control mode. -/
structure VideoType where
  codec : Codec
  rateControl : RateControl
  deriving DecidableEq, Repr, Inhabited

namespace VideoType

/-- Written as in `H.264 CBR`. -/
def text (t : VideoType) : String := t.codec.label ++ " " ++ t.rateControl.label

end VideoType

end LiveCamera
