import LiveCamera.Codec
import LiveCamera.Overlay.Rect
import LiveCamera.Picture.Format
import LiveCamera.Text.Duration

/-!
# Failures

Every way an operation can fail is a cause with the values that belong to it. A cause has a kind,
which decides how callers react, and a message. Causes may nest: a failed start names the failure
that stopped it.
-/

namespace LiveCamera

/-- The sorts of failure that callers tell apart. -/
inductive FailureKind
  /-- Streaming already runs. -/
  | busy
  /-- Something has to happen first. -/
  | notReady
  /-- A collaborator failed. -/
  | runtime
  /-- The request itself is wrong. -/
  | argument
  | notImplemented
  /-- Stored settings cannot be read. -/
  | config
  | database
  | io
  /-- A text is not in its format. -/
  | serialization
  /-- The media transport failed. -/
  | transport
  /-- The operation broke off in the middle; nothing after it is defined. -/
  | crash
  deriving DecidableEq, Repr, Inhabited

namespace FailureKind

/-- What stands before the reason in a message. -/
def heading : FailureKind → String
  | busy => "Busy: "
  | notReady => "Not ready: "
  | runtime => "Runtime error: "
  | argument => "Invalid argument: "
  | notImplemented => "Not implemented: "
  | config => "Configuration error: "
  | database => "Database error: "
  | io => "IO error: "
  | serialization => "Serialization error: "
  | transport => "WebRTC error: "
  | crash => "Crash: "

end FailureKind

/-- The causes of failure. -/
inductive Failure
  /-- A start while streaming runs. -/
  | alreadyRunning
  | emptyAccessUnit
  | videoTrackNotOpen
  /-- The track was closed while an access unit was being sent. -/
  | videoTrackClosed
  | emptyAudioPacket
  | audioTrackNotOpen
  | sessionClosed
  | noVideoTrack
  | audioNotEnabled
  /-- A region or rectangle before the picture size is known. -/
  | noCameraForRegions
  /-- A start before a camera is bound. -/
  | noCameraForStart
  | noRegionAvailable
  /-- A slot of a rectangle's range belongs to the application. -/
  | regionInUse (busy first last : Nat)
  | slotAttached (slot : Nat)
  | slotNotAttached (slot : Nat)
  | canvasSize (slot got expected : Nat)
  | connectionFailed (cause : Failure)
  | setUpFailed (cause : Failure)
  | encoderFailed (cause : Failure)
  | pageNotBound (address : String) (port : Nat)
  | signalingNotBound (address : String) (port : Nat)
  /-- A remote signaling endpoint that did not answer within so many milliseconds. -/
  | endpointUnreachable (url : String) (milliseconds : Nat)
  /-- The worker did not end within so many milliseconds. -/
  | workerStuck (milliseconds : Nat)
  | unknownCodec (text : String)
  | unknownRateControl (text : String)
  | patternSize (size : Size)
  | noPictures (codec : Codec)
  | noKeyframe (codec : Codec)
  | regionFormat (format : PixelFormat)
  | regionOutside (rect : Rect) (picture : Size)
  | regionNotAllocated (region : Nat)
  /-- A slot number past the end of the table was used. -/
  | slotOverrun (slot : Nat)
  /-- The end of the range of slots at a number is not a machine word. -/
  | rangeOverflow (slot : Nat)
  | regionOutOfRange (region regions : Nat)
  | rectangleOutOfRange (region last : Nat)
  | rectangleOutside (x y w h : Int) (picture : Size)
  | cameraFormat (format : PixelFormat)
  | cameraWidth (width alignment : Nat)
  | messageNotAnObject
  | messageWithoutType
  /-- Frames cannot be handed in. -/
  | writeFrame
  | drawString
  | invalidSection (name : String)
  /-- A text that is not in its format. -/
  | malformedText
  | databaseFailed
  | fileFailed
  /-- A collaborator outside this library failed in its own words. -/
  | reported (kind : FailureKind) (text : String)
  deriving DecidableEq, Repr, Inhabited

namespace Failure

def kind : Failure → FailureKind
  | alreadyRunning => .busy
  | emptyAccessUnit | videoTrackNotOpen | videoTrackClosed | emptyAudioPacket | audioTrackNotOpen
  | sessionClosed | noVideoTrack | audioNotEnabled | noCameraForRegions | noCameraForStart =>
    .notReady
  | noRegionAvailable | regionInUse .. | slotAttached _ | slotNotAttached _ | canvasSize ..
  | connectionFailed _ | setUpFailed _ | encoderFailed _ | pageNotBound .. | signalingNotBound ..
  | endpointUnreachable .. | workerStuck _ => .runtime
  | unknownCodec _ | unknownRateControl _ | patternSize _ | noPictures _ | noKeyframe _
  | regionFormat _ | regionOutside .. | regionNotAllocated _ | regionOutOfRange ..
  | rectangleOutOfRange .. | rectangleOutside .. | cameraFormat _ | cameraWidth ..
  | messageNotAnObject | messageWithoutType => .argument
  | writeFrame | drawString => .notImplemented
  | invalidSection _ => .config
  | malformedText => .serialization
  | slotOverrun _ | rangeOverflow _ => .crash
  | databaseFailed => .database
  | fileFailed => .io
  | reported kind _ => kind

/-- The failure as it is shown: the heading of its kind, then the reason. A failed file or database
access and a malformed text are shown without a reason. -/
def message : Failure → String
  | alreadyRunning => "Busy: streamer is already running"
  | emptyAccessUnit => "Not ready: empty access unit"
  | videoTrackNotOpen => "Not ready: video track is not open"
  | videoTrackClosed => "Not ready: video track closed"
  | emptyAudioPacket => "Not ready: empty audio packet"
  | audioTrackNotOpen => "Not ready: audio track is not open"
  | sessionClosed => "Not ready: peer session is closed"
  | noVideoTrack => "Not ready: no video track"
  | audioNotEnabled => "Not ready: audio is not enabled"
  | noCameraForRegions => "Not ready: Bind a camera before adding regions"
  | noCameraForStart => "Not ready: Bind a camera before starting"
  | noRegionAvailable => "Runtime error: no region available"
  | regionInUse busy first last =>
    s!"Runtime error: Region {busy} in [{first}, {last}] is used for another purpose"
  | slotAttached slot => s!"Runtime error: Overlay slot {slot} already attached"
  | slotNotAttached slot => s!"Runtime error: Overlay slot {slot} is not attached"
  | canvasSize slot got expected =>
    s!"Runtime error: Overlay slot {slot} canvas is {got} bytes, expected {expected}"
  | connectionFailed cause => "Runtime error: Failed to create connection: " ++ cause.message
  | setUpFailed cause => "Runtime error: Failed to set up peer connection: " ++ cause.message
  | encoderFailed cause => "Runtime error: Failed to create encoder: " ++ cause.message
  | pageNotBound address port =>
    s!"Runtime error: Failed to bind HTTP server on {address}:{port}"
  | signalingNotBound address port =>
    s!"Runtime error: Failed to bind signaling server on {address}:{port}"
  | endpointUnreachable url milliseconds =>
    "Runtime error: Failed to connect to signaling endpoint " ++ url ++ " after " ++
      Text.duration milliseconds
  | workerStuck milliseconds =>
    "Runtime error: Pipeline worker did not stop within " ++ Text.duration milliseconds
  | unknownCodec text => "Invalid argument: Unsupported video codec: " ++ text
  | unknownRateControl text => "Invalid argument: Unsupported rate control mode: " ++ text
  | patternSize size => "Invalid argument: Invalid test pattern resolution " ++ size.text
  | noPictures codec =>
    "Invalid argument: No " ++ codec.label ++ " pictures found in stream"
  | noKeyframe codec => "Invalid argument: Stream has no " ++ codec.label ++ " keyframe"
  | regionFormat format =>
    "Invalid argument: Regions support BGRA8888 only, got " ++ format.name
  | regionOutside rect picture =>
    "Invalid argument: Region " ++ rect.text ++ " does not fit the " ++ picture.text ++ " picture"
  | regionNotAllocated region => s!"Invalid argument: Region {region} is not allocated"
  | slotOverrun slot => s!"Crash: slot {slot} is past the end of the table"
  | rangeOverflow slot => s!"Crash: the range of slots at {slot} has no end"
  | regionOutOfRange region regions =>
    s!"Invalid argument: Region id {region} out of range [0, {regions})"
  | rectangleOutOfRange region last =>
    s!"Invalid argument: Rectangle id {region} out of range [0, {last}]"
  | rectangleOutside x y w h picture =>
    s!"Invalid argument: Rectangle ({x}, {y}, {w}, {h}) is outside the " ++ picture.text ++
      " picture"
  | cameraFormat format => "Invalid argument: Camera must deliver NV21, got " ++ format.name
  | cameraWidth width alignment =>
    s!"Invalid argument: Camera width {width} must be a multiple of {alignment}"
  | messageNotAnObject => "Invalid argument: signaling message is not an object"
  | messageWithoutType => "Invalid argument: signaling message has no type"
  | writeFrame => "Not implemented: write: frames are taken from the bound camera"
  | drawString => "Not implemented: draw_string"
  | invalidSection name => "Configuration error: Invalid '" ++ name ++ "' section"
  | malformedText => "Serialization error"
  | databaseFailed => "Database error"
  | fileFailed => "IO error"
  | reported .busy _ => "Busy: streamer is already running"
  | reported kind text => kind.heading ++ text

/-- Whether a caller may simply try again later, as with media while no viewer watches. -/
def isNotReady (f : Failure) : Bool := f.kind == .notReady

end Failure

end LiveCamera
