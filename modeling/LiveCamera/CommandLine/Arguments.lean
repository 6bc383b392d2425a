import LiveCamera.CommandLine.Value

/-!
# Arguments

The program takes options with a value and a few flags. An option has a long name, maybe a short
one, and is given at most once; its value stands behind `=`, right behind the short name, or in the
next argument. A value in an argument of its own is looked at when the argument after it has been
recognised.
-/

namespace LiveCamera.CommandLine

/-- Why the program does not start, or what it prints instead. -/
inductive Refusal
  | help
  | version
  | unknownArgument
  /-- A value is missing, empty or none of the possible ones. -/
  | invalidValue
  /-- A value cannot be read. -/
  | unreadableValue
  /-- A flag was given a value. -/
  | unexpectedValue
  /-- An option was given twice. -/
  | repeatedOption
  /-- The recording is not named. -/
  | missingOption
  deriving DecidableEq, Repr

inductive Setting
  | streamFile
  | address
  | httpPort
  | signalingPort
  | signalingAddress
  | codec
  | rateControl
  | bitrate
  | stunServer
  | resolution
  | fps
  | dataDir
  | logLevel
  deriving DecidableEq, Repr

namespace Setting

def long : Setting → String
  | streamFile => "stream-file"
  | address => "address"
  | httpPort => "http-port"
  | signalingPort => "signaling-port"
  | signalingAddress => "signaling-ip"
  | codec => "codec"
  | rateControl => "rate-control"
  | bitrate => "bitrate"
  | stunServer => "stun-server"
  | resolution => "resolution"
  | fps => "fps"
  | dataDir => "data-dir"
  | logLevel => "log-level"

def short? : Setting → Option Char
  | streamFile => some 's'
  | address => some 'a'
  | httpPort => some 'p'
  | codec => some 'c'
  | bitrate => some 'b'
  | dataDir => some 'd'
  | logLevel => some 'l'
  | _ => none

def all : List Setting :=
  [streamFile, address, httpPort, signalingPort, signalingAddress, codec, rateControl, bitrate,
    stunServer, resolution, fps, dataDir, logLevel]

def check (s : Setting) (value : String) : Except Refusal Unit :=
  let readable (b : Bool) : Except Refusal Unit := if b then .ok () else .error .unreadableValue
  match s with
  | streamFile | dataDir => if value.isEmpty then .error .invalidValue else .ok ()
  | httpPort | signalingPort => readable (number? 65535 value).isSome
  | bitrate | fps => readable (number? 4294967295 value).isSome
  | resolution =>
    readable (match size? value with
      | .ok _ => true
      | .error _ => false)
  | logLevel => if (LogLevel.ofName? value).isSome then .ok () else .error .invalidValue
  | _ => .ok ()

end Setting

inductive Flag
  | verbose
  | help
  | version
  deriving DecidableEq, Repr

namespace Flag

def long : Flag → String
  | verbose => "verbose"
  | help => "help"
  | version => "version"

def short : Flag → Char
  | verbose => 'v'
  | help => 'h'
  | version => 'V'

def all : List Flag := [verbose, help, version]

end Flag

/-- What was read so far. -/
structure Reading where
  /-- The values that were checked. -/
  values : List (Setting × String)
  verbosity : Nat
  /-- The option whose value, if it is there already, was not looked at yet. -/
  pending : Option (Setting × Option String)

namespace Reading

def empty : Reading := ⟨[], 0, none⟩

/-- Takes a value after checking it. -/
def accept (r : Reading) (s : Setting) (value : String) : Except Refusal Reading := do
  if (r.values.lookup s).isSome then throw .repeatedOption
  s.check value
  return { r with values := r.values ++ [(s, value)] }

/-- Looks at the value that was put off. -/
def resolve (r : Reading) : Except Refusal Reading :=
  match r.pending with
  | none => .ok r
  | some (_, none) => .error .invalidValue
  | some (s, some value) => ({ r with pending := none } : Reading).accept s value

/-- Takes a flag. Verbosity is counted up to 255. -/
def flag (r : Reading) (f : Flag) : Except Refusal Reading := do
  let r ← r.resolve
  match f with
  | .verbose => return { r with verbosity := min (r.verbosity + 1) 255 }
  | .help => throw .help
  | .version => throw .version

/-- Takes an option, with a value if that is attached. -/
def option (r : Reading) (s : Setting) (attached : Option String) : Except Refusal Reading := do
  let r ← r.resolve
  match attached with
  | none => return { r with pending := some (s, none) }
  | some value => r.accept s value

/-- Takes an argument with a long name. -/
def long (r : Reading) (body : List Char) : Except Refusal Reading :=
  let name := String.ofList (body.takeWhile (· != '='))
  let attached :=
    match body.dropWhile (· != '=') with
    | [] => none
    | _ :: value => some (String.ofList value)
  match Setting.all.find? (·.long == name), Flag.all.find? (·.long == name) with
  | some s, _ => r.option s attached
  | none, some f => if attached.isSome then .error .unexpectedValue else r.flag f
  | none, none => .error .unknownArgument

/-- Takes an argument with short names. -/
def shorts (r : Reading) : List Char → Except Refusal Reading
  | [] => .ok r
  | c :: rest =>
    match Setting.all.find? (·.short? == some c), Flag.all.find? (·.short == c) with
    | some s, _ =>
      match rest with
      | [] => r.option s none
      | '=' :: value => r.option s (some (String.ofList value))
      | value => r.option s (some (String.ofList value))
    | none, some f => do
      let r ← r.flag f
      r.shorts rest
    | none, none => .error .unknownArgument

/-- Takes an argument that is no name: the value that an option waits for. -/
def plain (r : Reading) (text : String) : Except Refusal Reading :=
  match r.pending with
  | some (s, none) => .ok { r with pending := some (s, some text) }
  | _ => .error .unknownArgument

/-- Takes arguments. Behind `--` there are no names any more, and nothing else is expected
either. -/
def readAll (r : Reading) : List String → Except Refusal Reading
  | [] => r.resolve
  | argument :: rest =>
    match argument.toList with
    | ['-', '-'] => if rest.isEmpty then r.resolve else .error .unknownArgument
    | '-' :: '-' :: body => do
      let r ← r.long body
      r.readAll rest
    | '-' :: c :: body => do
      let r ← r.shorts (c :: body)
      r.readAll rest
    | _ => do
      let r ← r.plain argument
      r.readAll rest

end Reading

/-- What the program was asked for. -/
structure Arguments where
  /-- The recording that is replayed. -/
  streamFile : String
  address : Option String
  httpPort : Option Nat
  signalingPort : Option Nat
  signalingAddress : Option String
  codec : Option String
  rateControl : Option String
  bitrate : Option Nat
  stunServer : Option String
  resolution : Size
  fps : Nat
  dataDir : Option String
  logLevel : LogLevel
  verbosity : Nat
  deriving DecidableEq, Repr

namespace Arguments

/-- The arguments of the program, without its name. -/
def parse (arguments : List String) : Except Refusal Arguments := do
  let r ← Reading.empty.readAll arguments
  let text (s : Setting) : Option String := r.values.lookup s
  let count (s : Setting) : Option Nat := (text s).bind (number? 4294967295)
  match text .streamFile with
  | none => throw .missingOption
  | some streamFile =>
    return {
      streamFile
      address := text .address
      httpPort := count .httpPort
      signalingPort := count .signalingPort
      signalingAddress := text .signalingAddress
      codec := text .codec
      rateControl := text .rateControl
      bitrate := count .bitrate
      stunServer := text .stunServer
      resolution := ((text .resolution).bind fun t ↦ (size? t).toOption).getD .hd720
      fps := (count .fps).getD 30
      dataDir := text .dataDir
      logLevel := ((text .logLevel).bind LogLevel.ofName?).getD .info
      verbosity := r.verbosity }

end Arguments

end LiveCamera.CommandLine
