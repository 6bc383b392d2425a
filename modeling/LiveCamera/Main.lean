import LiveCamera.CommandLine.Program

/-!
# The command line

The thin layer that reads the recording and the stored rows, starts the program, and writes the rows
back. Rows are kept as text in the data directory.
-/

namespace LiveCamera.CommandLine

def usage : String :=
  "\n".intercalate [
    "Low-latency WebRTC camera streamer",
    "",
    "Usage: vision-rtc [OPTIONS] --stream-file <FILE>",
    "",
    "Options:",
    "  -s, --stream-file <FILE>        Annex-B H.264/H.265 file replayed as the encoder output",
    "  -a, --address <ADDRESS>         Bind address for the bootstrap page",
    "  -p, --http-port <PORT>          Bootstrap HTTP port",
    "      --signaling-port <PORT>     Signaling port",
    "      --signaling-ip <ADDRESS>    Remote signaling address",
    "  -c, --codec <CODEC>             Video codec: h264 or h265",
    "      --rate-control <MODE>       Rate control: cbr or vbr",
    "  -b, --bitrate <BPS>             Target bitrate in bits per second",
    "      --stun-server <URL>         ICE server URL, empty for host candidates only",
    "      --resolution <WxH>          Camera resolution as WIDTHxHEIGHT [default: 1280x720]",
    "      --fps <FPS>                 Camera frame rate [default: 30]",
    "  -d, --data-dir <DIR>            Data directory path (default: /etc/vision-rtc)",
    "  -l, --log-level <LEVEL>         Log level [default: info]",
    "  -v, --verbose...                Increase verbosity",
    "  -h, --help                      Print help",
    "  -V, --version                   Print version"]

/-- What is said about a refused command line. -/
def complaint : Refusal → String
  | .help => usage
  | .version => "vision-rtc 0.1.0"
  | .unknownArgument => "error: unexpected argument"
  | .invalidValue => "error: invalid value"
  | .unreadableValue => "error: invalid value"
  | .unexpectedValue => "error: unexpected value"
  | .repeatedOption => "error: an argument cannot be used multiple times"
  | .missingOption => "error: the required argument --stream-file was not provided"

def rowsOf (text : String) : Rows :=
  match Json.Datum.ofText? text with
  | some (.record members) => ⟨members.filterMap fun
      | (key, .string value) => some (key, value)
      | _ => none⟩
  | _ => .empty

def textOf (rows : Rows) : String :=
  (Json.Datum.record (rows.sorted.map fun row ↦ (row.1, .string row.2))).text

/-- Runs a command line and gives the code to end with. -/
def execute (arguments : List String) : IO UInt32 := do
  match Arguments.parse arguments with
  | .error refusal =>
    if refusal.code = 0 then IO.println (complaint refusal) else IO.eprintln (complaint refusal)
    return UInt32.ofNat refusal.code
  | .ok a =>
    let named ← IO.getEnv "VISION_RTC_DATA_DIR"
    let directory := (a.dataDir <|> named).getD "/etc/vision-rtc"
    IO.FS.createDirAll directory
    let file := directory ++ "/vision-rtc.rows"
    let stored ← (IO.FS.readFile file).toBaseIO
    let recording ← (IO.FS.readBinFile a.streamFile).toBaseIO
    let world : Surroundings :=
      ⟨recording.toOption.map fun (content : ByteArray) ↦ content.toList, fun _ _ ↦ true,
        fun _ _ ↦ false⟩
    let (result, rows) := launch a world ((stored.toOption.map rowsOf).getD .empty)
    IO.FS.writeFile file (textOf rows)
    match result with
    | .error failure =>
      IO.eprintln (errorLine failure)
      return UInt32.ofNat failureCode
    | .ok streamer =>
      IO.println ("Viewer page: " ++ streamer.pageAddress)
      return 0

end LiveCamera.CommandLine

def main (arguments : List String) : IO UInt32 := LiveCamera.CommandLine.execute arguments
