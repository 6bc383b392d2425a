import LiveCamera.Event

/-!
# Broadcasts

A broadcast keeps the messages sent last, as many as its capacity. Every receiver has a position of
its own and reads on from there; one that has fallen behind further than the capacity is told how
many messages it missed and goes on with the oldest one kept.
-/

namespace LiveCamera

/-- A broadcast of messages of one type. -/
structure Broadcast (α : Type) where
  capacity : Nat
  /-- The number of messages sent so far. -/
  sent : Nat
  /-- The messages still kept, oldest first. -/
  kept : List α
  /-- The position of every receiver there ever was; one that left has none. -/
  receivers : List (Option Nat)
  deriving Repr

/-- What a receiver finds when it reads everything there is. -/
structure Backlog (α : Type) where
  /-- The number of messages that were gone. -/
  missed : Nat
  messages : List α
  deriving Repr

namespace Broadcast

variable {α : Type}

/-- A broadcast nobody has sent to or receives. -/
def new (capacity : Nat) : Broadcast α := ⟨capacity, 0, [], []⟩

def receiverCount (b : Broadcast α) : Nat := b.receivers.countP (·.isSome)

/-- Sends a message. It is lost when nobody receives. -/
def send (b : Broadcast α) (message : α) : Broadcast α :=
  if b.receiverCount = 0 then b
  else
    let kept := b.kept ++ [message]
    { b with sent := b.sent + 1, kept := kept.drop (kept.length - b.capacity) }

/-- One more receiver, which gets what is sent from now on, and its number. -/
def subscribe (b : Broadcast α) : Nat × Broadcast α :=
  (b.receivers.length, { b with receivers := b.receivers ++ [some b.sent] })

def unsubscribe (b : Broadcast α) (receiver : Nat) : Broadcast α :=
  { b with receivers := b.receivers.set receiver none }

/-- The number of the oldest message kept. -/
def oldest (b : Broadcast α) : Nat := b.sent - b.kept.length

/-- Everything a receiver has not read yet. -/
def drain (b : Broadcast α) (receiver : Nat) : Backlog α × Broadcast α :=
  match b.receivers[receiver]? with
  | some (some position) =>
    (⟨b.oldest - position, b.kept.drop (position - b.oldest)⟩,
      { b with receivers := b.receivers.set receiver (some b.sent) })
  | _ => (⟨0, []⟩, b)

end Broadcast

/-- The number of events a subscriber may be behind without missing any. -/
def eventCapacity : Nat := 64

/-- The bus on which a streamer publishes what happens. -/
abbrev EventBus := Broadcast StreamEvent

namespace EventBus

def new : EventBus := Broadcast.new eventCapacity

end EventBus

end LiveCamera
