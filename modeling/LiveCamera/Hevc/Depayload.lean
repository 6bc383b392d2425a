import LiveCamera.Hevc.Payload

/-!
# Receiving H.265 payloads

The receiving side of the payload format: payloads become NAL units again. A receiver accepts only
what the format allows. An aggregation packet holds two or more whole units, each behind its
length; the pieces of a unit arrive in order, nothing comes between them, and all of them carry the
header of the unit's first piece.
-/

namespace LiveCamera.Hevc

/-- The units of an aggregation packet, from behind its header. At most `limit` units are read. -/
def disaggregate : Nat → Bytes → Option (List Bytes)
  | _, [] => some []
  | limit + 1, high :: low :: rest =>
    let length := high.toNat * 256 + low.toNat
    if length ≤ rest.length then
      (disaggregate limit (rest.drop length)).map (rest.take length :: ·)
    else none
  | _, _ => none

/-- A unit of which some pieces have arrived. -/
structure Fragments where
  /-- The header of the unit, rebuilt. -/
  first : UInt8
  second : UInt8
  /-- The rest of the unit as far as it has arrived. -/
  body : Bytes
  deriving DecidableEq, Repr

/-- What a receiver remembers: the unit whose pieces arrive, if there is one. -/
structure Depayloader where
  pending : Option Fragments
  deriving DecidableEq, Repr

namespace Depayloader

def fresh : Depayloader := ⟨none⟩

/-- The first octet of a unit of which a piece has the payload header `first` and the type
`type`. -/
def rebuiltHeader (first type : UInt8) : UInt8 :=
  (first &&& (0x81 : UInt8)) ||| (type <<< (1 : UInt8))

/-- Takes a piece of a unit: the unit, if the piece is its last one. -/
def receiveFragment (d : Depayloader) (first second mark : UInt8) (piece : Bytes) :
    Option (List Bytes × Depayloader) :=
  let starts := (mark &&& 0x80) != 0
  let ends := (mark &&& 0x40) != 0
  let header := rebuiltHeader first (mark &&& 0x3F)
  match d.pending, starts with
  | none, true => if ends then none else some ([], ⟨some ⟨header, second, piece⟩⟩)
  | some unit, false =>
    if unit.first = header ∧ unit.second = second then
      let body := unit.body ++ piece
      if ends then some ([header :: second :: body], fresh)
      else some ([], ⟨some { unit with body }⟩)
    else none
  | _, _ => none

/-- Takes a payload: the units that it completes. -/
def receive (d : Depayloader) (payload : Bytes) : Option (List Bytes × Depayloader) :=
  match payload with
  | first :: second :: rest =>
    if typeOf first = fragmentType then
      match rest with
      | [] => none
      | mark :: piece => d.receiveFragment first second mark piece
    else if d.pending.isSome then none
    else if typeOf first = aggregationType then
      match disaggregate rest.length rest with
      | some (one :: other :: units) => some (one :: other :: units, d)
      | _ => none
    else some ([payload], d)
  | _ => none

/-- Takes payloads in order: all units that they complete. -/
def receiveAll (d : Depayloader) : List Bytes → Option (List Bytes × Depayloader)
  | [] => some ([], d)
  | payload :: rest => do
    let now ← d.receive payload
    let later ← now.2.receiveAll rest
    return (now.1 ++ later.1, later.2)

end Depayloader

end LiveCamera.Hevc
