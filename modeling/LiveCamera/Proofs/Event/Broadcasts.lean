import LiveCamera.Event.Bus
import Mathlib.Data.List.Induction

/-!
# What receivers of a broadcast read

A broadcast that somebody receives keeps the messages sent last, so that a receiver who has read
everything reads exactly what is sent from then on, as long as it fits the capacity
(`Sound.drain_sendAll`), and in any case if it is not told that it missed something
(`Sound.messages_drain_of_missed`).
-/

namespace LiveCamera.Broadcast

variable {α : Type} {b : Broadcast α}

/-- Everything that is kept was sent. -/
def Sound (b : Broadcast α) : Prop := b.kept.length ≤ b.sent

/-- The broadcast after several messages. -/
def sendAll (b : Broadcast α) (messages : List α) : Broadcast α := messages.foldl send b

theorem sound_new (capacity : Nat) : (new capacity : Broadcast α).Sound := Nat.le_refl 0

@[simp]
theorem sendAll_nil (b : Broadcast α) : b.sendAll [] = b := rfl

@[simp]
theorem sendAll_cons (b : Broadcast α) (message : α) (messages : List α) :
    b.sendAll (message :: messages) = (b.send message).sendAll messages := rfl

theorem sendAll_concat (b : Broadcast α) (messages : List α) (message : α) :
    b.sendAll (messages ++ [message]) = (b.sendAll messages).send message :=
  List.foldl_append

/-! ## Sending -/

@[simp]
theorem receivers_send (b : Broadcast α) (message : α) :
    (b.send message).receivers = b.receivers := by
  unfold send
  split <;> rfl

@[simp]
theorem capacity_send (b : Broadcast α) (message : α) :
    (b.send message).capacity = b.capacity := by
  unfold send
  split <;> rfl

@[simp]
theorem receivers_sendAll (b : Broadcast α) (messages : List α) :
    (b.sendAll messages).receivers = b.receivers := by
  induction messages generalizing b with
  | nil => rfl
  | cons message messages ih => rw [sendAll_cons, ih, receivers_send]

@[simp]
theorem capacity_sendAll (b : Broadcast α) (messages : List α) :
    (b.sendAll messages).capacity = b.capacity := by
  induction messages generalizing b with
  | nil => rfl
  | cons message messages ih => rw [sendAll_cons, ih, capacity_send]

@[simp]
theorem receiverCount_send (b : Broadcast α) (message : α) :
    (b.send message).receiverCount = b.receiverCount := by
  rw [receiverCount, receivers_send, ← receiverCount]

@[simp]
theorem receiverCount_sendAll (b : Broadcast α) (messages : List α) :
    (b.sendAll messages).receiverCount = b.receiverCount := by
  rw [receiverCount, receivers_sendAll, ← receiverCount]

theorem receiverCount_ne_zero {receiver position : Nat}
    (h : b.receivers[receiver]? = some (some position)) : b.receiverCount ≠ 0 := by
  apply Nat.ne_of_gt
  exact List.countP_pos_iff.mpr ⟨some position, List.mem_of_getElem? h, rfl⟩

theorem send_of_received (h : b.receiverCount ≠ 0) (message : α) :
    b.send message = { b with
      sent := b.sent + 1
      kept := (b.kept ++ [message]).drop ((b.kept ++ [message]).length - b.capacity) } :=
  if_neg h

theorem Sound.send (h : b.Sound) (message : α) : (b.send message).Sound := by
  by_cases hcount : b.receiverCount = 0
  · rw [Broadcast.send, if_pos hcount]
    exact h
  · rw [send_of_received hcount]
    change (List.drop _ _).length ≤ b.sent + 1
    calc
      _ ≤ (b.kept ++ [message]).length := (List.drop_sublist _ _).length_le
      _ = b.kept.length + 1 := List.length_append
      _ ≤ b.sent + 1 := Nat.add_le_add_right h 1

theorem Sound.sendAll (h : b.Sound) (messages : List α) : (b.sendAll messages).Sound := by
  induction messages generalizing b with
  | nil => exact h
  | cons message messages ih => exact ih (h.send message)

theorem sent_sendAll (h : b.receiverCount ≠ 0) (messages : List α) :
    (b.sendAll messages).sent = b.sent + messages.length := by
  induction messages generalizing b with
  | nil => rfl
  | cons message messages ih =>
    have hcount : (b.send message).receiverCount ≠ 0 := by
      rwa [receiverCount_send]
    rw [sendAll_cons, ih hcount, send_of_received h, List.length_cons]
    dsimp only
    omega

/-- Messages that fit the capacity are all kept, in front of nothing else. -/
theorem exists_kept_sendAll (h : b.receiverCount ≠ 0) {messages : List α}
    (hcapacity : messages.length ≤ b.capacity) :
    ∃ older, (b.sendAll messages).kept = older ++ messages := by
  induction messages using List.reverseRecOn with
  | nil => exact ⟨b.kept, (List.append_nil _).symm⟩
  | append_singleton messages message ih =>
    rw [List.length_append, List.length_singleton] at hcapacity
    obtain ⟨older, hkept⟩ := ih (by omega)
    have hcount : (b.sendAll messages).receiverCount ≠ 0 := by
      rwa [receiverCount_sendAll]
    rw [sendAll_concat, send_of_received hcount, hkept, capacity_sendAll, List.append_assoc]
    refine ⟨older.drop ((older ++ (messages ++ [message])).length - b.capacity), ?_⟩
    apply List.drop_append_of_le_length
    simp only [List.length_append, List.length_singleton]
    omega

theorem sendAll_append (b : Broadcast α) (messages later : List α) :
    b.sendAll (messages ++ later) = (b.sendAll messages).sendAll later :=
  List.foldl_append

/-- What is kept was sent last. -/
theorem kept_sendAll_suffix (h : b.receiverCount ≠ 0) (messages : List α) :
    (b.sendAll messages).kept <:+ b.kept ++ messages := by
  induction messages using List.reverseRecOn with
  | nil => simp
  | append_singleton messages message ih =>
    have hcount : (b.sendAll messages).receiverCount ≠ 0 := by
      rwa [receiverCount_sendAll]
    obtain ⟨older, holder⟩ := ih
    rw [sendAll_concat, send_of_received hcount, ← List.append_assoc, ← holder, List.append_assoc]
    apply (List.drop_suffix _ _).trans
    exact List.suffix_append older _

/-! ## Reading -/

/-- Whether a receiver has read everything that was sent. -/
def UpToDate (b : Broadcast α) (receiver : Nat) : Prop :=
  b.receivers[receiver]? = some (some b.sent)

theorem drain_of_receives {receiver position : Nat}
    (h : b.receivers[receiver]? = some (some position)) :
    b.drain receiver = (⟨b.oldest - position, b.kept.drop (position - b.oldest)⟩,
      { b with receivers := b.receivers.set receiver (some b.sent) }) := by
  simp only [drain, h]

/-- A receiver who has read everything reads exactly what is sent from then on. -/
theorem Sound.drain_sendAll (h : b.Sound) {receiver : Nat} (hreceiver : b.UpToDate receiver)
    {messages : List α} (hcapacity : messages.length ≤ b.capacity) :
    ((b.sendAll messages).drain receiver).1 = ⟨0, messages⟩ := by
  have hcount : b.receiverCount ≠ 0 := receiverCount_ne_zero hreceiver
  obtain ⟨older, hkept⟩ := exists_kept_sendAll hcount hcapacity
  have hsent := sent_sendAll hcount messages
  have hsound : (older ++ messages).length ≤ b.sent + messages.length := by
    rw [← hkept, ← hsent]
    exact h.sendAll messages
  rw [List.length_append] at hsound
  have hposition : (b.sendAll messages).receivers[receiver]? = some (some b.sent) := by
    rw [receivers_sendAll]
    exact hreceiver
  have holdest : (b.sendAll messages).oldest = b.sent - older.length := by
    rw [oldest, hsent, hkept, List.length_append]
    omega
  have hmissed : b.sent - older.length - b.sent = 0 := by omega
  have hread : b.sent - (b.sent - older.length) = older.length := by omega
  rw [drain_of_receives hposition, holdest, hkept, hmissed, hread, List.drop_left]

/-- A receiver who misses nothing reads exactly what is sent, however much that is. -/
theorem Sound.messages_drain_of_missed (h : b.Sound) {receiver : Nat}
    (hreceiver : b.UpToDate receiver) {messages : List α}
    (hmissed : ((b.sendAll messages).drain receiver).1.missed = 0) :
    ((b.sendAll messages).drain receiver).1.messages = messages := by
  have hcount : b.receiverCount ≠ 0 := receiverCount_ne_zero hreceiver
  have hposition : (b.sendAll messages).receivers[receiver]? = some (some b.sent) := by
    rw [receivers_sendAll]
    exact hreceiver
  have hlength : (b.sendAll messages).kept.length ≤ b.sent + messages.length := by
    rw [← sent_sendAll hcount]
    exact h.sendAll messages
  rw [drain_of_receives hposition] at hmissed ⊢
  rw [oldest, sent_sendAll hcount] at hmissed ⊢
  dsimp only at hmissed ⊢
  have hsuffix : messages <:+ (b.sendAll messages).kept := by
    apply List.suffix_of_suffix_length_le (List.suffix_append b.kept messages)
      (kept_sendAll_suffix hcount messages)
    omega
  obtain ⟨older, hkept⟩ := hsuffix
  rw [← hkept, List.length_append] at hmissed hlength ⊢
  have hread : b.sent - (b.sent + messages.length - (older.length + messages.length)) =
      older.length := by omega
  rw [hread, List.drop_left]

theorem upToDate_drain {receiver position : Nat}
    (h : b.receivers[receiver]? = some (some position)) :
    (b.drain receiver).2.UpToDate receiver := by
  have hlength : receiver < b.receivers.length := (List.getElem?_eq_some_iff.mp h).1
  rw [drain_of_receives h]
  simp [UpToDate, hlength]

/-! ## Coming and going -/

theorem Sound.subscribe (h : b.Sound) : b.subscribe.2.Sound := h

theorem Sound.unsubscribe (h : b.Sound) (receiver : Nat) : (b.unsubscribe receiver).Sound := h

@[simp]
theorem capacity_drain (b : Broadcast α) (receiver : Nat) :
    (b.drain receiver).2.capacity = b.capacity := by
  unfold drain
  split <;> rfl

theorem Sound.drain (h : b.Sound) (receiver : Nat) : (b.drain receiver).2.Sound := by
  unfold Broadcast.drain
  split <;> exact h

/-- A receiver reads nothing but what is kept. -/
theorem messages_drain_subset (b : Broadcast α) (receiver : Nat) :
    (b.drain receiver).1.messages ⊆ b.kept := by
  unfold drain
  split
  · exact List.drop_subset _ _
  · exact List.nil_subset _

@[simp]
theorem kept_drain (b : Broadcast α) (receiver : Nat) : (b.drain receiver).2.kept = b.kept := by
  unfold drain
  split <;> rfl

/-- What is kept after a message is that message or was kept before. -/
theorem mem_kept_send {message other : α} (h : other ∈ (b.send message).kept) :
    other ∈ b.kept ∨ other = message := by
  unfold send at h
  split at h
  · exact .inl h
  · exact (List.mem_append.mp (List.mem_of_mem_drop h)).imp_right List.mem_singleton.mp

/-! ## Messages that say less -/

section Map

variable {β : Type} (f : α → β)

/-- The same broadcast, with other messages. -/
def map (b : Broadcast α) : Broadcast β := ⟨b.capacity, b.sent, b.kept.map f, b.receivers⟩

theorem map_send (b : Broadcast α) (message : α) :
    (b.send message).map f = (b.map f).send (f message) := by
  have hcount : (b.map f).receiverCount = b.receiverCount := rfl
  by_cases hnone : b.receiverCount = 0
  · rw [send, send, hcount, if_pos hnone, if_pos hnone]
  · rw [send_of_received hnone, send_of_received (hcount.symm ▸ hnone)]
    simp [map, List.map_drop]

theorem map_subscribe (b : Broadcast α) : b.subscribe.2.map f = (b.map f).subscribe.2 := rfl

theorem map_unsubscribe (b : Broadcast α) (receiver : Nat) :
    (b.unsubscribe receiver).map f = (b.map f).unsubscribe receiver := rfl

theorem map_drain (b : Broadcast α) (receiver : Nat) :
    (b.drain receiver).2.map f = ((b.map f).drain receiver).2 := by
  simp only [drain, map]
  split <;> rfl

/-- What a receiver reads corresponds. -/
theorem messages_map_drain (b : Broadcast α) (receiver : Nat) :
    ((b.map f).drain receiver).1.messages = (b.drain receiver).1.messages.map f := by
  simp only [drain, map, oldest, List.length_map]
  split <;> simp [List.map_drop]

end Map

end LiveCamera.Broadcast
