/-!
# Octet strings

Encoded media, canvases and pictures are lists of octets. A long list is cut into equal stretches in
several places: rows of a picture, pixels of a row, fragments of a packet.
-/

namespace LiveCamera

/-- Encoded media and pixel buffers alike are lists of octets. -/
abbrev Bytes := List UInt8

namespace Bytes

/-- The two octets of a 16-bit length field, most significant first; larger values wrap. -/
def ofLength (n : Nat) : Bytes := [UInt8.ofNat (n / 256), UInt8.ofNat n]

@[simp] theorem length_ofLength (n : Nat) : (ofLength n).length = 2 := rfl

end Bytes

/-- The first `count` consecutive stretches of `size` elements; stretches past the end are short. -/
def stretches {α : Type} (size : Nat) : Nat → List α → List (List α)
  | 0, _ => []
  | count + 1, l => l.take size :: stretches size count (l.drop size)

@[simp] theorem length_stretches {α : Type} (size count : Nat) (l : List α) :
    (stretches size count l).length = count := by
  induction count generalizing l with
  | zero => rfl
  | succ count ih => simp [stretches, ih]

/-- Cutting and joining again gives back what was cut. -/
theorem flatten_stretches {α : Type} (size count : Nat) (l : List α) :
    (stretches size count l).flatten = l.take (size * count) := by
  induction count generalizing l with
  | zero => simp [stretches]
  | succ count ih =>
    rw [stretches, List.flatten_cons, ih, Nat.mul_succ, Nat.add_comm, List.take_add]

theorem getElem?_stretches {α : Type} {count : Nat} (size : Nat) (l : List α) {i : Nat}
    (hi : i < count) : (stretches size count l)[i]? = some ((l.drop (size * i)).take size) := by
  induction count generalizing l i with
  | zero => omega
  | succ count ih =>
    cases i with
    | zero => simp [stretches]
    | succ i =>
      have hdrop : (l.drop size).drop (size * i) = l.drop (size * (i + 1)) := by
        rw [List.drop_drop, Nat.mul_succ, Nat.add_comm]
      rw [stretches, List.getElem?_cons_succ, ih (l.drop size) (by omega), hdrop]

end LiveCamera
