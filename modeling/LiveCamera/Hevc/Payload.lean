import LiveCamera.AnnexB
import LiveCamera.NalKind

/-!
# H.265 payloads

The payload format of RFC 7798. A payload is a NAL unit that fits (`single`), several parameter sets
in one aggregation packet, or a piece of a unit that does not fit (a fragmentation unit).

```text
payload header (2 octets)         fragment header (1 octet)
+---------------+---------------+ +---------------+
|F|   Type    |  LayerId  | TID | |S|E|   Type    |
+---------------+---------------+ +---------------+
```

Parameter sets wait for the next picture, so that they travel right in front of it.
-/

namespace LiveCamera.Hevc

def vps : Nat := 32

def sps : Nat := 33

def pps : Nat := 34

/-- Access unit delimiter. -/
def delimiter : Nat := 35

def filler : Nat := 38

def aggregationType : Nat := 48

def fragmentType : Nat := 49

/-- The type of a unit or payload, from its first octet. -/
def typeOf (first : UInt8) : Nat := ((first >>> 1) &&& 0x3F).toNat

/-- The layer and temporal identifiers of a unit: the last nine bits of its header. -/
def layerAndTemporal : Bytes → Nat
  | first :: second :: _ => (first &&& 1).toNat * 256 + second.toNat
  | _ => 1

/-- The forbidden bit of a unit, in its place. -/
def forbiddenBit : Bytes → UInt8
  | first :: _ => first &&& 0x80
  | [] => 0

/-- The octets of an aggregation packet: a header, then every unit behind its length. -/
def aggregateLength (sets : List Bytes) : Nat :=
  2 + (sets.map (2 + ·.length)).foldr (· + ·) 0

/-- One packet for several units. Its header has the forbidden bit if one of them has it, and the
lowest of their last nine header bits. -/
def aggregate (sets : List Bytes) : Bytes :=
  let forbidden := sets.foldl (fun bit set ↦ bit ||| forbiddenBit set) 0
  let lowest := ((sets.map layerAndTemporal).min?).getD 1
  [forbidden ||| 0x60 ||| UInt8.ofNat (lowest / 256), UInt8.ofNat lowest] ++
    sets.flatMap fun set ↦ Bytes.ofLength set.length ++ set

/-- The fragment headers of a unit in `count` pieces: the first piece carries the start bit, the
last one the end bit. -/
def fragmentHeader (type : UInt8) (count index : Nat) : UInt8 :=
  type ||| (if index = 0 then 0x80 else 0) ||| (if index + 1 = count then 0x40 else 0)

/-- The pieces of a unit that is longer than `mtu`. The unit's header is not sent: its type moves
into the fragment headers, the rest into the payload headers. -/
def fragment (mtu : Nat) : Bytes → List Bytes
  | first :: second :: body =>
    let chunk := mtu - 3
    let count := (body.length + chunk - 1) / chunk
    (stretches chunk count body).zipIdx.map fun (piece, index) ↦
      [(first &&& 0x81) ||| 0x62, second,
        fragmentHeader ((first >>> 1) &&& 0x3F) count index] ++ piece
  | _ => []

/-- A unit by itself, in pieces if it does not fit. -/
def single (mtu : Nat) (unit : Bytes) : List Bytes :=
  if unit.length ≤ mtu then [unit] else fragment mtu unit

/-- The waiting parameter sets: in one aggregation packet if there are several and they fit, one
after the other otherwise. -/
def sendSets (mtu : Nat) (sets : List Bytes) : List Bytes :=
  if sets.length < 2 ∨ mtu < aggregateLength sets then sets.flatMap (single mtu)
  else [aggregate sets]

/-- Splits access units into payloads. -/
structure Payloader where
  /-- The parameter sets that wait for the next picture, oldest first. -/
  held : List Bytes
  deriving DecidableEq, Repr, Inhabited

namespace Payloader

def fresh : Payloader := ⟨[]⟩

/-- The payloads for one NAL unit. Delimiters, filler and units without a full header are dropped,
parameter sets wait, and anything else follows the parameter sets that wait. -/
def pushUnit (p : Payloader) (mtu : Nat) (unit : Bytes) : List Bytes × Payloader :=
  match unit with
  | first :: _ :: _ =>
    let type := typeOf first
    if type = delimiter ∨ type = filler then ([], p)
    else if type = vps ∨ type = sps ∨ type = pps then ([], ⟨p.held ++ [unit]⟩)
    else (sendSets mtu p.held ++ single mtu unit, ⟨[]⟩)
  | _ => ([], p)

def pushUnits (p : Payloader) (mtu : Nat) : List Bytes → List Bytes × Payloader
  | [] => ([], p)
  | unit :: rest =>
    let sent := p.pushUnit mtu unit
    let later := sent.2.pushUnits mtu rest
    (sent.1 ++ later.1, later.2)

/-- The payloads for one access unit, none longer than `mtu`. A limit that leaves no room behind the
headers of a fragment sends nothing. -/
def payload (p : Payloader) (mtu : Nat) (data : Bytes) : List Bytes × Payloader :=
  if mtu ≤ 3 then ([], p) else p.pushUnits mtu ((AnnexB.split data).map (·.payload))

end Payloader

end LiveCamera.Hevc
