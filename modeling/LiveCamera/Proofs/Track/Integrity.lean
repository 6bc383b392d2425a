import LiveCamera.Track.Video
import Mathlib.Data.List.Infix

/-!
# The packet stream of a video track

A write uses up the sequence numbers of its whole access unit before the first packet is sent, so
what is numbered and what is stored are two lists: a sink that fails, or a connection given up
between two packets, cuts the second one short.  `VideoStream` keeps both for a track that is
opened, closed and written to in any order, with any payloader.  `VideoStream.Numbered` is kept by
every call, `VideoStream.WritesSoundly` says what a single write comes to, and
`VideoStream.stream_integrity` puts the two together over a whole history.
-/

namespace LiveCamera

/-! ## Packets of one access unit -/

/-- These packets carry the payloads of one access unit, in order and numbered from `first`. -/
structure Rtp.IsAccessUnit (first : UInt16) (timestamp : Nat) (payloads : List Bytes)
    (packets : List Rtp.Packet) : Prop where
  payloads : packets.map (·.payload) = payloads
  sequence : ∀ i packet, packets[i]? = some packet →
    packet.sequence.toNat = (first.toNat + i) % 65536
  timestamp : ∀ packet ∈ packets, packet.timestamp.toNat = timestamp % 4294967296
  payloadType : ∀ packet ∈ packets, packet.payloadType = 96
  source : ∀ packet ∈ packets, packet.source = 1
  marker : ∀ i packet, packets[i]? = some packet → (packet.marker = true ↔ i + 1 = packets.length)

namespace Rtp

theorem toNat_add_one (number : UInt16) : (number + 1).toNat = (number.toNat + 1) % 65536 := by
  simp [UInt16.toNat_add]

theorem getElem?_packets (first : UInt16) (timestamp : UInt32) (payloads : List Bytes) {i : Nat}
    {packet : Packet} (h : (packets first timestamp payloads)[i]? = some packet) :
    packet.sequence.toNat = (first.toNat + i) % 65536 ∧ packet.timestamp = timestamp ∧
      packet.payloadType = videoPayloadType ∧ packet.source = videoSource ∧
      (packet.marker = true ↔ i + 1 = payloads.length) := by
  induction payloads generalizing first i with
  | nil => simp [packets] at h
  | cons payload rest ih =>
    cases i with
    | zero =>
      obtain rfl := Option.some.inj h
      have hsequence : first.toNat = (first.toNat + 0) % 65536 :=
        (Nat.mod_eq_of_lt first.toNat_lt).symm
      have hmarker : rest.isEmpty = true ↔ 0 + 1 = (payload :: rest).length := by
        rw [List.isEmpty_iff, ← List.length_eq_zero_iff, List.length_cons]
        omega
      exact ⟨hsequence, rfl, rfl, rfl, hmarker⟩
    | succ i =>
      obtain ⟨hsequence, htimestamp, htype, hsource, hmarker⟩ := ih (first + 1) h
      rw [toNat_add_one] at hsequence
      refine ⟨by omega, htimestamp, htype, hsource, ?_⟩
      rw [hmarker, List.length_cons]
      omega

theorem isAccessUnit_packets (first : UInt16) (timestamp : Nat) (payloads : List Bytes) :
    IsAccessUnit first timestamp payloads
      (packets first (UInt32.ofNat timestamp) payloads) := by
  refine ⟨map_payload_packets _ _ _, ?_, ?_, ?_, ?_, ?_⟩
  · exact fun i packet hpacket ↦ (getElem?_packets _ _ _ hpacket).1
  · intro packet hpacket
    obtain ⟨i, hi⟩ := List.getElem?_of_mem hpacket
    rw [(getElem?_packets _ _ _ hi).2.1]
    exact UInt32.toNat_ofNat'
  · intro packet hpacket
    obtain ⟨i, hi⟩ := List.getElem?_of_mem hpacket
    exact (getElem?_packets _ _ _ hi).2.2.1
  · intro packet hpacket
    obtain ⟨i, hi⟩ := List.getElem?_of_mem hpacket
    exact (getElem?_packets _ _ _ hi).2.2.2.1
  · intro i packet hpacket
    rw [length_packets]
    exact (getElem?_packets _ _ _ hpacket).2.2.2.2

/-- A strict part from the front of an access unit lacks the packet with the marker. -/
theorem IsAccessUnit.marker_of_lt {first : UInt16} {timestamp : Nat} {payloads : List Bytes}
    {packets stored : List Packet} (h : IsAccessUnit first timestamp payloads packets)
    (hfront : stored <+: packets) (hlength : stored.length < packets.length) :
    ∀ packet ∈ stored, packet.marker = false := by
  obtain ⟨missing, rfl⟩ := hfront
  intro packet hpacket
  obtain ⟨i, hi⟩ := List.getElem?_of_mem hpacket
  have hshort := (List.getElem?_eq_some_iff.mp hi).1
  have hmarker := h.marker i packet ((List.getElem?_append_left hshort).trans hi)
  rw [← Bool.not_eq_true, hmarker]
  omega

end Rtp

namespace VideoTrack

/-! ## Sending -/

section Send

variable (answer : Nat → SinkAnswer) (index : Nat) (gate : Gate) (packets : List Rtp.Packet)

theorem send_of_locked {gate : Gate} (h : gate.locked = true) :
    (send answer index gate packets).2 = ([], gate) := by
  cases packets <;> simp [send, h]

/-- What is stored is a part from the front, and the caller is told whether it is all. -/
theorem send_prefix :
    (send answer index gate packets).2.1 <+: packets ∧
      ((send answer index gate packets).1 = .ok () ↔
        (send answer index gate packets).2.1 = packets) := by
  induction packets generalizing index gate with
  | nil => simp [send]
  | cons packet rest ih =>
    unfold send
    by_cases hlocked : gate.locked = true
    · simp [hlocked]
    · rw [if_neg hlocked]
      cases answer index with
      | failed cause => simp
      | stored => simpa using ih (index + 1) gate
      | storedThenClosed => simpa using ih (index + 1) gate.lock

/-- A sink that stores everything gets every packet of an open track. -/
theorem send_stored {gate : Gate} (h : gate.locked = false) :
    send (fun _ ↦ .stored) index gate packets = (.ok (), packets, gate) := by
  induction packets generalizing index with
  | nil => rfl
  | cons packet rest ih => simp [send, h, ih]

/-- The sink gets all of it unless it fails, or the track is closed, before the last packet is
stored. -/
theorem send_eq_ok_iff {gate : Gate} (h : gate.locked = false) :
    (send answer index gate packets).1 = .ok () ↔ ∀ i < packets.length,
      answer (index + i) = .stored ∨
        answer (index + i) = .storedThenClosed ∧ i + 1 = packets.length := by
  induction packets generalizing index gate with
  | nil => simp [send]
  | cons packet rest ih =>
    rw [send, if_neg (by simp [h]), List.length_cons]
    constructor
    · intro hok i hi
      cases hnow : answer index with
      | failed cause => simp [hnow] at hok
      | stored =>
        cases i with
        | zero => exact .inl hnow
        | succ i =>
          simp only [hnow, ih (index + 1) h] at hok
          simpa [Nat.add_assoc, Nat.add_comm 1 i] using hok i (by omega)
      | storedThenClosed =>
        -- Behind a closed track there is no packet left to send.
        have hrest : rest = [] := by
          cases rest with
          | nil => rfl
          | cons => simp [hnow, send] at hok
        subst hrest
        obtain rfl := Nat.lt_one_iff.mp hi
        exact .inr ⟨hnow, rfl⟩
    · intro hall
      rcases hall 0 (Nat.zero_lt_succ _) with hnow | ⟨hnow, hlast⟩
      · rw [Nat.add_zero] at hnow
        simp only [hnow, ih (index + 1) h]
        intro i hi
        simpa [Nat.add_assoc, Nat.add_comm 1 i] using hall (i + 1) (by omega)
      · rw [Nat.add_zero] at hnow
        have hrest : rest = [] := List.length_eq_zero_iff.mp (by omega)
        simp [hnow, hrest, send]

/-- What the sink got ends where it failed, or where the track was closed. -/
theorem send_eq_error {gate : Gate} (h : gate.locked = false) {cause : Failure}
    (herror : (send answer index gate packets).1 = .error cause) :
    let stored := (send answer index gate packets).2.1
    answer (index + stored.length) = .failed cause ∨
      ∃ i, stored.length = i + 1 ∧ answer (index + i) = .storedThenClosed ∧
        cause = .videoTrackClosed := by
  induction packets generalizing index gate with
  | nil => simp [send] at herror
  | cons packet rest ih =>
    rw [send, if_neg (by simp [h])] at herror ⊢
    cases hnow : answer index with
    | failed failure =>
      simp only [hnow] at herror ⊢
      cases herror
      exact .inl hnow
    | stored =>
      simp only [hnow] at herror ⊢
      rcases ih (index + 1) h herror with hfailed | ⟨i, hlength, hclosed, hcause⟩
      · refine .inl ?_
        rwa [List.length_cons, Nat.add_comm _ 1, ← Nat.add_assoc]
      · refine .inr ⟨i + 1, congrArg (· + 1) hlength, ?_, hcause⟩
        rwa [Nat.add_comm i 1, ← Nat.add_assoc]
    | storedThenClosed =>
      simp only [hnow] at herror ⊢
      cases rest with
      | nil => simp [send] at herror
      | cons =>
        simp only [send, Gate.locked_lock, if_true] at herror ⊢
        cases herror
        exact .inr ⟨0, rfl, hnow, rfl⟩

/-- The packet behind which the track is closed is the last one stored. -/
theorem send_of_storedThenClosed {i : Nat} (hanswer : answer (index + i) = .storedThenClosed)
    (hi : i < (send answer index gate packets).2.1.length) :
    (send answer index gate packets).2.1.length = i + 1 ∧
      (send answer index gate packets).2.2.locked = true := by
  induction packets generalizing index gate i with
  | nil => simp [send] at hi
  | cons packet rest ih =>
    unfold send at hi ⊢
    by_cases hlocked : gate.locked = true
    · simp [hlocked] at hi
    · rw [if_neg hlocked] at hi ⊢
      cases i with
      | zero =>
        rw [Nat.add_zero] at hanswer
        simp [hanswer, send_of_locked answer (index + 1) rest gate.locked_lock]
      | succ i =>
        have hnext : answer (index + 1 + i) = .storedThenClosed := by
          rwa [Nat.add_right_comm, Nat.add_assoc]
        cases hnow : answer index with
        | failed cause => simp [hnow] at hi
        | stored =>
          simp only [hnow, List.length_cons, Nat.add_lt_add_iff_right] at hi ⊢
          simpa using ih (index + 1) gate hnext hi
        | storedThenClosed =>
          -- The track is closed already, so nothing but the first packet was stored.
          simp [hnow, send_of_locked answer (index + 1) rest gate.locked_lock] at hi

end Send

/-! ## Writing -/

section Write

variable {σ : Type} (payload : Rtp.Payloading σ) (t : VideoTrack σ) (data : Bytes)
  (timestamp : Nat) (answer : Nat → SinkAnswer)

theorem writeWith_of_refused (h : data = [] ∨ t.isOpen = false) :
    ∃ cause, t.writeWith payload data timestamp answer = ⟨.error cause, [], t⟩ ∧
      cause.isNotReady = true := by
  unfold writeWith
  by_cases hdata : data = []
  · exact ⟨.emptyAccessUnit, by rw [if_pos (List.isEmpty_iff.mpr hdata)], rfl⟩
  · refine ⟨.videoTrackNotOpen, ?_, rfl⟩
    rw [if_neg (mt List.isEmpty_iff.mp hdata), if_pos (by simpa using h.resolve_left hdata)]

/-- A payloader that fails leaves the numbering as it was. -/
theorem writeWith_of_error (hdata : data ≠ []) (hopen : t.isOpen = true) {cause : Failure}
    {memory : σ} (hpayload : payload t.memory data = (.error cause, memory)) :
    t.writeWith payload data timestamp answer = ⟨.error cause, [], { t with memory }⟩ := by
  unfold writeWith
  rw [if_neg (mt List.isEmpty_iff.mp hdata), if_neg (by simpa using hopen), hpayload]

theorem writeWith_of_ok (hdata : data ≠ []) (hopen : t.isOpen = true) {payloads : List Bytes}
    {memory : σ} (hpayload : payload t.memory data = (.ok payloads, memory)) :
    let sent := send answer 0 t.gate (Rtp.packets t.next (UInt32.ofNat timestamp) payloads)
    let w := t.writeWith payload data timestamp answer
    w.result = sent.1 ∧ w.stored = sent.2.1 ∧ w.track.gate = sent.2.2 ∧
      w.track.next = t.next + UInt16.ofNat payloads.length ∧ w.track.memory = memory := by
  simp [writeWith, hdata, hopen, hpayload]

/-- What can become of an access unit: it is refused, or the payloader fails, or it is split. -/
theorem write_cases :
    (data = [] ∨ t.isOpen = false) ∨
      data ≠ [] ∧ t.isOpen = true ∧
        ((∃ cause memory, payload t.memory data = (.error cause, memory)) ∨
          ∃ payloads memory, payload t.memory data = (.ok payloads, memory)) := by
  by_cases hrefused : data = [] ∨ t.isOpen = false
  · exact .inl hrefused
  · obtain ⟨hdata, hopen⟩ := not_or.mp hrefused
    refine .inr ⟨hdata, by simpa using hopen, ?_⟩
    rcases payload t.memory data with ⟨cause | payloads, memory⟩
    · exact .inl ⟨cause, memory, rfl⟩
    · exact .inr ⟨payloads, memory, rfl⟩

/-- A write that stores the packet behind which the track is closed stores no more than that. -/
theorem writeWith_of_storedThenClosed {i : Nat} (hanswer : answer i = .storedThenClosed)
    (hi : i < (t.writeWith payload data timestamp answer).stored.length) :
    (t.writeWith payload data timestamp answer).stored.length = i + 1 ∧
      (t.writeWith payload data timestamp answer).track.gate.locked = true := by
  rcases t.write_cases payload data with
    hrefused | ⟨hdata, hopen, ⟨cause, memory, hpayload⟩ | ⟨payloads, memory, hpayload⟩⟩
  · obtain ⟨cause, hwrite, -⟩ := t.writeWith_of_refused payload data timestamp answer hrefused
    simp [hwrite] at hi
  · rw [t.writeWith_of_error payload data timestamp answer hdata hopen hpayload] at hi
    exact absurd hi (Nat.not_lt_zero i)
  · obtain ⟨-, hstored, hgate, -⟩ :=
      t.writeWith_of_ok payload data timestamp answer hdata hopen hpayload
    rw [hstored] at hi ⊢
    rw [hgate]
    exact send_of_storedThenClosed answer 0 _ _ (by rwa [Nat.zero_add]) hi

end Write

end VideoTrack

/-! ## Histories -/

/-- A call that reaches a video track. -/
inductive VideoTrack.Call
  | setOpen (wanted : Bool)
  | close
  | write (data : Bytes) (timestamp : Nat) (answer : Nat → SinkAnswer)

/-- A track with every packet made for it, sent or not, and every packet its sink has stored. -/
structure VideoStream (σ : Type) where
  track : VideoTrack σ
  made : List Rtp.Packet
  stored : List Rtp.Packet

namespace VideoStream

variable {σ : Type}

def start (codec : Codec) (generation : Nat) (first : UInt16) (memory : σ) : VideoStream σ :=
  ⟨.new codec generation first memory, [], []⟩

/-- The packets of an access unit, if the track takes it and the payloader can split it. -/
def packetsOf (payload : Rtp.Payloading σ) (t : VideoTrack σ) (data : Bytes) (timestamp : Nat) :
    List Rtp.Packet :=
  if data = [] ∨ t.isOpen = false then []
  else
    match (payload t.memory data).1 with
    | .ok payloads => Rtp.packets t.next (UInt32.ofNat timestamp) payloads
    | .error _ => []

def perform (payload : Rtp.Payloading σ) (s : VideoStream σ) : VideoTrack.Call → VideoStream σ
  | .setOpen wanted => { s with track := s.track.setOpen wanted }
  | .close => { s with track := s.track.close }
  | .write data timestamp answer =>
    let w := s.track.writeWith payload data timestamp answer
    ⟨w.track, s.made ++ packetsOf payload s.track data timestamp, s.stored ++ w.stored⟩

def performAll (payload : Rtp.Payloading σ) (s : VideoStream σ) :
    List VideoTrack.Call → VideoStream σ
  | [] => s
  | call :: rest => (s.perform payload call).performAll payload rest

theorem performAll_append (payload : Rtp.Payloading σ) (s : VideoStream σ)
    (before after : List VideoTrack.Call) :
    s.performAll payload (before ++ after) =
      (s.performAll payload before).performAll payload after := by
  induction before generalizing s with
  | nil => rfl
  | cons call before ih => exact ih (s.perform payload call)

variable {payload : Rtp.Payloading σ} {s : VideoStream σ}

section Write

variable {data : Bytes} {timestamp : Nat} (answer : Nat → SinkAnswer)

theorem perform_write_of_refused (h : data = [] ∨ s.track.isOpen = false) :
    s.perform payload (.write data timestamp answer) = s := by
  obtain ⟨cause, hwrite, -⟩ :=
    s.track.writeWith_of_refused payload data timestamp answer h
  simp [perform, packetsOf, hwrite, h]

theorem perform_write_of_error (hdata : data ≠ []) (hopen : s.track.isOpen = true) {cause : Failure}
    {memory : σ} (hpayload : payload s.track.memory data = (.error cause, memory)) :
    s.perform payload (.write data timestamp answer) =
      { s with track := { s.track with memory } } := by
  have hwrite := s.track.writeWith_of_error payload data timestamp answer hdata hopen hpayload
  simp [perform, packetsOf, hwrite, hdata, hopen, hpayload]

theorem packetsOf_of_ok (hdata : data ≠ []) (hopen : s.track.isOpen = true)
    {payloads : List Bytes} {memory : σ}
    (hpayload : payload s.track.memory data = (.ok payloads, memory)) :
    packetsOf payload s.track data timestamp =
      Rtp.packets s.track.next (UInt32.ofNat timestamp) payloads := by
  simp [packetsOf, hdata, hopen, hpayload]

end Write

/-- Whether the packets made so far are numbered from `first` without a gap, and the track goes on
from there. -/
structure Numbered (first : UInt16) (s : VideoStream σ) : Prop where
  sequence : ∀ k packet, s.made[k]? = some packet →
    packet.sequence.toNat = (first.toNat + k) % 65536
  next : s.track.next.toNat = (first.toNat + s.made.length) % 65536
  stored : s.stored.Sublist s.made

namespace Numbered

variable {first : UInt16}

theorem start (codec : Codec) (generation : Nat) (memory : σ) :
    Numbered first (start codec generation first memory) where
  sequence := by simp [VideoStream.start]
  next := (Nat.mod_eq_of_lt first.toNat_lt).symm
  stored := List.Sublist.refl []

theorem of_track (h : Numbered first s) {track : VideoTrack σ} (hnext : track.next = s.track.next) :
    Numbered first { s with track } :=
  ⟨h.sequence, hnext ▸ h.next, h.stored⟩

/-- An access unit takes the next numbers. -/
theorem write (h : Numbered first s) {data : Bytes} {timestamp : Nat}
    (answer : Nat → SinkAnswer) (hdata : data ≠ []) (hopen : s.track.isOpen = true)
    {payloads : List Bytes} {memory : σ}
    (hpayload : payload s.track.memory data = (.ok payloads, memory)) :
    Numbered first (s.perform payload (.write data timestamp answer)) := by
  obtain ⟨-, hstored, -, hnext, -⟩ :=
    s.track.writeWith_of_ok payload data timestamp answer hdata hopen hpayload
  have hpackets : packetsOf payload s.track data timestamp = _ :=
    packetsOf_of_ok hdata hopen hpayload
  have hunit := Rtp.isAccessUnit_packets s.track.next timestamp payloads
  refine ⟨?_, ?_, ?_⟩
  · intro k packet hpacket
    dsimp only [perform] at hpacket
    rw [hpackets] at hpacket
    rcases Nat.lt_or_ge k s.made.length with hk | hk
    · rw [List.getElem?_append_left hk] at hpacket
      exact h.sequence k packet hpacket
    · rw [List.getElem?_append_right hk] at hpacket
      have hsequence := hunit.sequence _ packet hpacket
      rw [h.next] at hsequence
      omega
  · dsimp only [perform]
    rw [hnext, hpackets, List.length_append, Rtp.length_packets, UInt16.toNat_add, h.next,
      UInt16.toNat_ofNat']
    omega
  · dsimp only [perform]
    rw [hstored, hpackets]
    exact h.stored.append (VideoTrack.send_prefix answer 0 s.track.gate _).1.sublist

/-- Every call keeps the numbering. -/
theorem perform (h : Numbered first s) (call : VideoTrack.Call) :
    Numbered first (s.perform payload call) := by
  cases call with
  | setOpen wanted => exact h.of_track rfl
  | close => exact h.of_track rfl
  | write data timestamp answer =>
    rcases s.track.write_cases payload data with
      hrefused | ⟨hdata, hopen, ⟨cause, memory, hpayload⟩ | ⟨payloads, memory, hpayload⟩⟩
    · rwa [perform_write_of_refused answer hrefused]
    · rw [perform_write_of_error answer hdata hopen hpayload]
      exact h.of_track rfl
    · exact h.write answer hdata hopen hpayload

theorem performAll (h : Numbered first s) (calls : List VideoTrack.Call) :
    Numbered first (s.performAll payload calls) := by
  induction calls generalizing s with
  | nil => exact h
  | cons call calls ih => exact ih (h.perform call)

end Numbered

/-- Nothing more is stored once the gate is locked. -/
theorem stored_performAll_of_locked (h : s.track.gate.locked = true)
    (calls : List VideoTrack.Call) : (s.performAll payload calls).stored = s.stored := by
  induction calls generalizing s with
  | nil => rfl
  | cons call calls ih =>
    cases call with
    | setOpen wanted =>
      have hlocked : (s.track.setOpen wanted).gate.locked = true :=
        (s.track.gate.locked_set wanted).trans h
      exact ih (s := { s with track := s.track.setOpen wanted }) hlocked
    | close => exact ih (s := { s with track := s.track.close }) rfl
    | write data timestamp answer =>
      have hshut : s.track.isOpen = false := Gate.isOpen_of_locked h
      have hsame : s.perform payload (.write data timestamp answer) = s :=
        perform_write_of_refused answer (.inr hshut)
      rw [VideoStream.performAll, hsame]
      exact ih h

/-- Why a sink got no more packets than this: it failed at the next one, or the track was closed
behind the last. -/
def BrokenOff (answer : Nat → SinkAnswer) (count : Nat) (cause : Failure) : Prop :=
  answer count = .failed cause ∨
    ∃ i, count = i + 1 ∧ answer i = .storedThenClosed ∧ cause = .videoTrackClosed

/-- What a write to the track of `s` comes to, for the caller, the sink and the track. -/
structure WritesSoundly (payload : Rtp.Payloading σ) (s : VideoStream σ) (data : Bytes)
    (timestamp : Nat) (answer : Nat → SinkAnswer) : Prop where
  /-- A refused write changes nothing. -/
  refused : data = [] ∨ s.track.isOpen = false →
    let w := s.track.writeWith payload data timestamp answer
    let after := s.perform payload (.write data timestamp answer)
    (∃ cause, w.result = .error cause ∧ cause.isNotReady = true) ∧ w.stored = [] ∧ after = s
  /-- A payloader that fails changes nothing but its own memory. -/
  unsplit : data ≠ [] → s.track.isOpen = true → ∀ cause memory,
    payload s.track.memory data = (.error cause, memory) →
    let w := s.track.writeWith payload data timestamp answer
    let after := s.perform payload (.write data timestamp answer)
    w.result = .error cause ∧ w.stored = [] ∧
      after = { s with track := { s.track with memory } }
  /-- Otherwise the packets of the access unit are made, and stored as far as the sink goes: all of
  them unless it fails, or the track is closed, before that. -/
  sent : data ≠ [] → s.track.isOpen = true → ∀ payloads memory,
    payload s.track.memory data = (.ok payloads, memory) →
    let w := s.track.writeWith payload data timestamp answer
    let after := s.perform payload (.write data timestamp answer)
    ∃ packets, Rtp.IsAccessUnit s.track.next timestamp payloads packets ∧
      after.made = s.made ++ packets ∧ after.stored = s.stored ++ w.stored ∧
      (w.result = .ok () ↔ w.stored = packets) ∧
      (w.result = .ok () ↔ ∀ i < packets.length, answer i = .stored ∨
        answer i = .storedThenClosed ∧ i + 1 = packets.length) ∧
      ∀ cause, w.result = .error cause → w.stored <+: packets ∧
        w.stored.length < packets.length ∧ (∀ packet ∈ w.stored, packet.marker = false) ∧
        BrokenOff answer w.stored.length cause
  /-- A packet behind which the track is closed is the last one for good. -/
  closed : ∀ i, answer i = .storedThenClosed →
    let w := s.track.writeWith payload data timestamp answer
    let after := s.perform payload (.write data timestamp answer)
    i < w.stored.length →
    w.stored.length = i + 1 ∧ ∀ later, (after.performAll payload later).stored = after.stored

theorem sent_of_ok {data : Bytes} (hdata : data ≠ []) (hopen : s.track.isOpen = true)
    {payloads : List Bytes} {memory : σ}
    (hpayload : payload s.track.memory data = (.ok payloads, memory)) (timestamp : Nat)
    (answer : Nat → SinkAnswer) :
    let w := s.track.writeWith payload data timestamp answer
    let packets := packetsOf payload s.track data timestamp
    Rtp.IsAccessUnit s.track.next timestamp payloads packets ∧
      (w.result = .ok () ↔ w.stored = packets) ∧
      (w.result = .ok () ↔ ∀ i < packets.length, answer i = .stored ∨
        answer i = .storedThenClosed ∧ i + 1 = packets.length) ∧
      ∀ cause, w.result = .error cause → w.stored <+: packets ∧
        w.stored.length < packets.length ∧ (∀ packet ∈ w.stored, packet.marker = false) ∧
        BrokenOff answer w.stored.length cause := by
  intro w packets
  have hpackets : packets = _ := packetsOf_of_ok hdata hopen hpayload
  obtain ⟨hresult, hstored, -⟩ :=
    s.track.writeWith_of_ok payload data timestamp answer hdata hopen hpayload
  have hunit := Rtp.isAccessUnit_packets s.track.next timestamp payloads
  have hunlocked : s.track.gate.locked = false := Gate.locked_of_isOpen hopen
  have hsend := VideoTrack.send_prefix answer 0 s.track.gate packets
  have hok := VideoTrack.send_eq_ok_iff answer 0 packets hunlocked
  rw [← hpackets] at hunit hresult hstored
  rw [← hresult, ← hstored] at hsend
  rw [← hresult] at hok
  simp only [Nat.zero_add] at hok
  obtain ⟨hfront, hall⟩ := hsend
  refine ⟨hunit, hall, hok, ?_⟩
  intro cause hcause
  have hpart : w.stored ≠ packets := by
    intro hwhole
    cases hcause.symm.trans (hall.mpr hwhole)
  have hlength : w.stored.length < packets.length :=
    hfront.length_le.lt_of_ne fun hsame ↦ hpart (hfront.eq_of_length hsame)
  have hbroken := VideoTrack.send_eq_error answer 0 packets hunlocked (hresult.symm.trans hcause)
  rw [← hstored] at hbroken
  simp only [Nat.zero_add] at hbroken
  exact ⟨hfront, hlength, hunit.marker_of_lt hfront hlength, hbroken⟩

theorem writesSoundly (payload : Rtp.Payloading σ) (s : VideoStream σ) (data : Bytes)
    (timestamp : Nat) (answer : Nat → SinkAnswer) :
    WritesSoundly payload s data timestamp answer where
  refused := by
    intro hrefused w after
    obtain ⟨cause, hwrite, hcause⟩ :=
      s.track.writeWith_of_refused payload data timestamp answer hrefused
    change w = _ at hwrite
    rw [hwrite]
    exact ⟨⟨cause, rfl, hcause⟩, rfl, perform_write_of_refused answer hrefused⟩
  unsplit := by
    intro hdata hopen cause memory hpayload w after
    have hwrite : w = _ :=
      s.track.writeWith_of_error payload data timestamp answer hdata hopen hpayload
    rw [hwrite]
    exact ⟨rfl, rfl, perform_write_of_error answer hdata hopen hpayload⟩
  sent := by
    intro hdata hopen payloads memory hpayload w after
    obtain ⟨hunit, hall, hok, hpart⟩ := sent_of_ok hdata hopen hpayload timestamp answer
    exact ⟨_, hunit, rfl, rfl, hall, hok, hpart⟩
  closed := by
    intro i hanswer w after hi
    obtain ⟨hlength, hlocked⟩ :=
      s.track.writeWith_of_storedThenClosed payload data timestamp answer hanswer hi
    exact ⟨hlength, stored_performAll_of_locked hlocked⟩

/-- The stream of a track over any history.  All packets that were ever made are numbered without a
gap, modulo 2¹⁶, and what is stored is a part of them.  Every further write keeps to
`WritesSoundly`, and nothing is stored once the track was closed. -/
theorem stream_integrity (payload : Rtp.Payloading σ) (codec : Codec) (generation : Nat)
    (first : UInt16) (memory : σ) (calls : List VideoTrack.Call) :
    let s := (start codec generation first memory).performAll payload calls
    (∀ k packet, s.made[k]? = some packet →
        packet.sequence.toNat = (first.toNat + k) % 65536) ∧
      s.stored.Sublist s.made ∧
      (∀ data timestamp answer, WritesSoundly payload s data timestamp answer) ∧
      ∀ later, (s.performAll payload (.close :: later)).stored = s.stored := by
  intro s
  have hnumbered : Numbered first s := (Numbered.start codec generation memory).performAll calls
  refine ⟨hnumbered.sequence, hnumbered.stored, s.writesSoundly payload, ?_⟩
  exact stored_performAll_of_locked (s := { s with track := s.track.close }) rfl

end VideoStream

end LiveCamera
