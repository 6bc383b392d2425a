import LiveCamera.Bytes

/-!
# H.264 payloads

The payload format of RFC 6184 in its non-interleaved mode. Parameter sets are remembered and sent
in one aggregation packet in front of the next other unit; a unit that does not fit is sent in
pieces.
-/

namespace LiveCamera.Avc

def delimiter : UInt8 := 9

def filler : UInt8 := 12

def sps : UInt8 := 7

def pps : UInt8 := 8

/-- Cuts a buffer at its start codes, which here are two or more zero octets followed by a one. The
octets read since the last cut stand reversed in front, followed by `zeros` zero octets not yet
assigned. -/
def cut (read : Bytes) (zeros : Nat) : Bytes → List Bytes
  | [] => [(List.replicate zeros 0 ++ read).reverse]
  | octet :: rest =>
    if octet = 0 then cut read (zeros + 1) rest
    else if octet = 1 ∧ 2 ≤ zeros then read.reverse :: cut [] 0 rest
    else cut (octet :: (List.replicate zeros 0 ++ read)) 0 rest

/-- The units of a buffer: what follows each start code, or the whole buffer if there is no code. -/
def units (data : Bytes) : List Bytes :=
  match cut [] 0 data with
  | _ :: unit :: rest => unit :: rest
  | whole => whole

/-- Splits access units into payloads. -/
structure Payloader where
  /-- The sequence parameter set that waits for the next picture. -/
  sps : Option Bytes
  /-- The picture parameter set that waits for the next picture. -/
  pps : Option Bytes
  deriving DecidableEq, Repr, Inhabited

/-- Both parameter sets behind their lengths, in one packet; nothing if it does not fit. -/
def aggregate (mtu : Nat) (first second : Bytes) : List Bytes :=
  let packet := 0x78 :: (Bytes.ofLength first.length ++ first) ++
    (Bytes.ofLength second.length ++ second)
  if packet.length ≤ mtu then [packet] else []

/-- The pieces of a unit that is longer than `mtu`; its type moves into the second octet of each,
where the first piece carries the start bit and a later last piece the end bit. -/
def fragment (mtu : Nat) : Bytes → List Bytes
  | [] => []
  | first :: body =>
    let chunk := mtu - 2
    let count := if chunk = 0 then 0 else (body.length + chunk - 1) / chunk
    (stretches chunk count body).zipIdx.map fun (piece, index) ↦
      [28 ||| (first &&& 0x60),
        (first &&& 0x1F) |||
          (if index = 0 then 0x80 else if index + 1 = count then 0x40 else 0)] ++ piece

/-- A unit by itself, in pieces if it does not fit. -/
def single (mtu : Nat) (unit : Bytes) : List Bytes :=
  if unit.length ≤ mtu then [unit] else fragment mtu unit

namespace Payloader

def fresh : Payloader := ⟨none, none⟩

def pushUnit (p : Payloader) (mtu : Nat) (unit : Bytes) : List Bytes × Payloader :=
  match unit with
  | [] => ([], p)
  | first :: _ =>
    let type := first &&& 0x1F
    if type = delimiter ∨ type = filler then ([], p)
    else if type = Avc.sps then ([], { p with sps := some unit })
    else if type = Avc.pps then ([], { p with pps := some unit })
    else
      match p.sps, p.pps with
      | some set, some parameters => (aggregate mtu set parameters ++ single mtu unit, fresh)
      | _, _ => (single mtu unit, p)

def pushUnits (p : Payloader) (mtu : Nat) : List Bytes → List Bytes × Payloader
  | [] => ([], p)
  | unit :: rest =>
    let sent := p.pushUnit mtu unit
    let later := sent.2.pushUnits mtu rest
    (sent.1 ++ later.1, later.2)

/-- The payloads for one access unit. -/
def payload (p : Payloader) (mtu : Nat) (data : Bytes) : List Bytes × Payloader :=
  if data.isEmpty ∨ mtu = 0 then ([], p) else p.pushUnits mtu (units data)

end Payloader

end LiveCamera.Avc
