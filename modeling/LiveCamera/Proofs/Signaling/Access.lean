import LiveCamera.Proofs.Rehearsal.Ownership
import LiveCamera.Proofs.Signaling.History

/-!
# Who reaches the session

The session hears of viewers in three ways: an answer or a candidate is handed to it, and it is told
that its viewer left.  While somebody owns the session, an answer counts only if it is the owner's.
A candidate that is addressed to the device is handed on whoever sends it, and `heard_from_others`
says exactly when; `not_only_owner_heard` is a viewer that was never given the session and is heard.

A viewer whose requests were all turned away never owned the session, which is `leave_turnedAway`.
While somebody owns the session its departure is not noticed there, but when nobody does, it counts
as that of the owner, as in `not_always_unnoticed`.
-/

namespace LiveCamera.Signaling

/-- A candidate for the device that leaves it to the connection who sends it. -/
def candidateText : String := "\x7b\"type\":\"candidate\",\"candidate\":\"a\"\x7d"

theorem ofText_candidateText : Message.ofText candidateText =
    .ok ⟨[("candidate", .string "a"), ("type", .string "candidate")]⟩ := by
  have hread : Json.Node.ofText? candidateText = some (.record
      [(some "type", .string (some "candidate")), (some "candidate", .string (some "a"))]) := by
    simp only [Json.Node.ofText?, candidateText, String.reduceToList]
    rfl
  have hfields : Json.Datum.ofText? candidateText =
      some (.record [("candidate", .string "a"), ("type", .string "candidate")]) := by
    simp only [Json.Datum.ofText?, hread]
    rfl
  simp only [Message.ofText, hfields]
  rfl

/-- A message offers the device a candidate, with its media identifier if it has one. -/
def Message.Offers (m : Message) (candidate : String) (mid : Option String) : Prop :=
  m.type = "candidate" ∧ m.isForDevice = true ∧ m.candidate? = some candidate ∧ m.mid? = mid

namespace Registry

variable {r : Registry} {owner client : String} {wire : Nat} {opened : List Nat}
  {events : List WireEvent}

/-! ## Candidates -/

theorem candidate_notMem_request (r : Registry) (wire : Nat) (client candidate : String)
    (mid : Option String) : Action.candidate candidate mid ∉ (r.request wire client).1 := by
  rcases r.request_cases wire client with ⟨_, -, -, -, hrequest⟩ | ⟨-, hrequest⟩ <;>
    simp [hrequest]

theorem candidate_notMem_answer (r : Registry) (client : String) (m : Message) (candidate : String)
    (mid : Option String) : Action.candidate candidate mid ∉ r.answer client m := by
  unfold answer
  split_ifs <;> simp

theorem candidate_notMem_relay (r : Registry) (client : String) (m : Message) (candidate : String)
    (mid : Option String) : Action.candidate candidate mid ∉ r.relay client m := by
  unfold relay
  split <;> simp

/-- A registered client's candidate is handed to the session if it is addressed to the device.
Nobody asks who owns the session. -/
theorem candidate_mem_handle_iff (r : Registry) (wire : Nat) (client : String) (m : Message)
    (candidate : String) (mid : Option String) :
    Action.candidate candidate mid ∈ (r.handle wire client m).1 ↔ m.Offers candidate mid := by
  unfold handle Message.Offers
  split
  · next htype => simp [htype, candidate_notMem_request]
  · next htype => simp [htype, candidate_notMem_answer]
  · next htype =>
    split_ifs with hdevice
    · simp [htype, hdevice]
    · simp [hdevice, candidate_notMem_relay]
  · next hother =>
    have hne : ¬m.type = "candidate" := hother
    simp [hne, candidate_notMem_relay]

/-- What a text comes to: its sender is not registered and nothing is handed to the session, or the
sender is registered and the message is handled. -/
theorem receive_of_ok {text : String} {m : Message} (hm : Message.ofText text = .ok m)
    (r : Registry) (wire : Nat) :
    (r.receive wire text).2.client? wire = none ∧
        (∀ candidate mid, Action.candidate candidate mid ∉ (r.receive wire text).1) ∨
      ((r.receive wire text).2.client? wire).isSome ∧ ∃ (client : String) (enrolled : Registry),
        r.receive wire text = enrolled.handle wire client m := by
  rcases r.enroll_cases wire m with ⟨hnone, henroll⟩ | ⟨client, hclient, henroll⟩ |
    ⟨registration, hregistration, hnone, ⟨_, -, -, henroll⟩ | ⟨-, henroll⟩⟩ <;>
    simp only [receive, hm, henroll]
  · exact .inl ⟨by simp [client?, hnone], by simp⟩
  · exact .inr ⟨by simp [client?_handle, hclient], _, _, rfl⟩
  · exact .inl ⟨by simp [client?, hregistration, hnone], by simp⟩
  · exact .inr ⟨by simp [client?_handle, client?_enlist hregistration], _, _, rfl⟩

/-- A text hands a candidate to the session if it offers one and its sender is registered once it
was read. -/
theorem candidate_mem_receive_iff (r : Registry) (wire : Nat) (text candidate : String)
    (mid : Option String) :
    Action.candidate candidate mid ∈ (r.receive wire text).1 ↔
      ((r.receive wire text).2.client? wire).isSome ∧
        ∃ m, Message.ofText text = .ok m ∧ m.Offers candidate mid := by
  cases hm : Message.ofText text with
  | error cause => simp [receive_of_error hm]
  | ok m =>
    rcases receive_of_ok hm r wire with ⟨hnone, hsilent⟩ | ⟨hsome, client, enrolled, hhandle⟩
    · simp [hnone, hsilent]
    · rw [hhandle] at hsome ⊢
      simp [hsome, candidate_mem_handle_iff]

/-- While a client owns the session, no text on another connection than its own is handed to the
session as an answer.  A candidate is handed to it from any connection on which somebody is
registered, or registers with that very message, if it is addressed to the device. -/
theorem heard_from_others (h : Reachable opened r) (howner : r.owner = some owner) :
    ∃ wire, r.wire? owner = some wire ∧ r.client? wire = some owner ∧
      ∀ other text, other ≠ wire →
        (∀ sdp, Action.answer sdp ∉ (r.dispatch (.message other text)).1) ∧
        ∀ candidate mid,
          Action.candidate candidate mid ∈ (r.dispatch (.message other text)).1 ↔
            ((r.dispatch (.message other text)).2.client? other).isSome ∧
              ∃ m, Message.ofText text = .ok m ∧ m.Offers candidate mid := by
  have hconsistent := h.consistent
  obtain ⟨wire, hwire⟩ := hconsistent.owner owner howner
  refine ⟨wire, hwire, (hconsistent.client?_iff wire owner).mpr hwire, ?_⟩
  intro other text hother
  exact ⟨(hconsistent.receive_of_ne howner hwire hother text).2,
    r.candidate_mem_receive_iff other text⟩

/-- Two viewers that are named by their paths request the stream.  The second one is turned away. -/
def contested : List WireEvent :=
  [.connected 1 (some "c1"), .message 1 requestText, .connected 2 (some "c2"),
    .message 2 requestText]

theorem history_contested : History contested := by
  have hopened : History ([] ++ [.connected 1 (some "c1")]) := .next .empty (by simp)
  have hasked : History ([.connected 1 (some "c1")] ++ [.message 1 requestText]) :=
    .next hopened ⟨some "c1", by simp⟩
  have hsecond : History ([.connected 1 (some "c1"), .message 1 requestText] ++
      [.connected 2 (some "c2")]) := .next hasked (by simp)
  exact .next hsecond (show WireEvent.MayFollow _ (.message 2 requestText) from
    ⟨some "c2", by simp⟩)

theorem after_contested : after contested =
    ⟨[⟨1, some "c1", some "c1"⟩, ⟨2, some "c2", some "c2"⟩], [("c1", 1), ("c2", 2)],
      some "c1"⟩ := by
  simp only [contested, after, List.foldl, dispatch, receive, ofText_requestText]
  rfl

theorem isSome_client?_contested (text : String) :
    (((after contested).dispatch (.message 2 text)).2.client? 2).isSome := by
  have hclient : (after contested).client? 2 = some "c2" := by rw [after_contested]; rfl
  rw [dispatch, client?_receive_of_some hclient, Option.isSome_some]

theorem heard_from_others_contested :
    (after contested).owner = some "c1" ∧ (after contested).wire? "c1" = some 1 ∧
      (∀ text sdp, Action.answer sdp ∉ ((after contested).dispatch (.message 2 text)).1) ∧
      Action.candidate "a" none ∈ ((after contested).dispatch (.message 2 candidateText)).1 := by
  obtain ⟨opened, hreachable, -⟩ := exists_reachable_after history_contested
  have howner : (after contested).owner = some "c1" := by rw [after_contested]
  obtain ⟨wire, hwire, -, hothers⟩ := heard_from_others hreachable howner
  have hfirst : wire = 1 := by
    rw [after_contested] at hwire
    exact (Option.some.inj hwire).symm
  subst hfirst
  refine ⟨howner, hwire, fun text ↦ (hothers 2 text (by decide)).1, ?_⟩
  obtain ⟨-, hcandidate⟩ := hothers 2 candidateText (by decide)
  exact (hcandidate "a" none).mpr
    ⟨isSome_client?_contested candidateText, _, ofText_candidateText, rfl, rfl, rfl, rfl⟩

/-- The owner is not the only one that the session hears: a viewer that was turned away offers a
candidate. -/
theorem not_only_owner_heard :
    ¬∀ events, History events → ∀ owner wire, (after events).owner = some owner →
      (after events).wire? owner = some wire → ∀ other text, other ≠ wire →
        (∀ sdp, Action.answer sdp ∉ ((after events).dispatch (.message other text)).1) ∧
        ∀ candidate mid,
          Action.candidate candidate mid ∉ ((after events).dispatch (.message other text)).1 := by
  intro hall
  have howner : (after contested).owner = some "c1" := by rw [after_contested]
  have hwire : (after contested).wire? "c1" = some 1 := by rw [after_contested]; rfl
  obtain ⟨-, hnone⟩ := hall contested history_contested "c1" 1 howner hwire 2 candidateText
    (by decide)
  apply hnone "a" none
  rw [dispatch, candidate_mem_receive_iff]
  exact ⟨isSome_client?_contested candidateText, _, ofText_candidateText, rfl, rfl, rfl, rfl⟩

/-! ## Viewers that were turned away -/

/-- Somebody requested the stream on a connection, and was told that the device is busy as often as
it did. -/
structure TurnedAway (events : List WireEvent) (wire : Nat) : Prop where
  asked : ∃ text m, .message wire text ∈ events ∧ Message.ofText text = .ok m ∧
    m.type = "request"
  refused : ∀ earlier later text m, events = earlier ++ .message wire text :: later →
    Message.ofText text = .ok m → m.type = "request" →
    ∃ name, Action.send wire (Message.busy name).text ∈
      ((after earlier).dispatch (.message wire text)).1

/-- An event of a history is the last one, or one of those before. -/
theorem concat_eq_append_cons {event found : WireEvent} {earlier later : List WireEvent}
    (h : events ++ [event] = earlier ++ found :: later) :
    (events = earlier ∧ event = found) ∨ ∃ rest, events = earlier ++ found :: rest := by
  rcases later.eq_nil_or_concat with rfl | ⟨rest, last, rfl⟩
  · obtain ⟨hevents, hlast⟩ := List.append_inj' h rfl
    exact .inl ⟨hevents, List.singleton_inj.mp hlast⟩
  · rw [List.concat_eq_append, ← List.cons_append, ← List.append_assoc] at h
    exact .inr ⟨rest, (List.append_inj' h rfl).1⟩

namespace TurnedAway

theorem of_first {text : String} {m : Message} {name : String}
    (hfirst : ∀ text, .message wire text ∉ events) (hm : Message.ofText text = .ok m)
    (htype : m.type = "request") (hbusy : Action.send wire (Message.busy name).text ∈
      ((after events).dispatch (.message wire text)).1) :
    TurnedAway (events ++ [.message wire text]) wire where
  asked := ⟨text, m, by simp, hm, htype⟩
  refused := by
    intro earlier later asked _ hall _ _
    rcases concat_eq_append_cons hall with ⟨rfl, hlast⟩ | ⟨rest, rfl⟩
    · exact ⟨name, hlast ▸ hbusy⟩
    · exact absurd (by simp) (hfirst asked)

/-- A viewer stays turned away until it speaks again. -/
theorem concat (haway : TurnedAway events wire) {event : WireEvent}
    (hquiet : ∀ text, event ≠ .message wire text) : TurnedAway (events ++ [event]) wire where
  asked := by
    obtain ⟨text, m, hmem, hm, htype⟩ := haway.asked
    exact ⟨text, m, List.mem_append_left _ hmem, hm, htype⟩
  refused := by
    intro earlier later text m hall hm htype
    rcases concat_eq_append_cons hall with ⟨-, hlast⟩ | ⟨rest, hevents⟩
    · exact absurd hlast (hquiet text)
    · exact haway.refused earlier rest text m hevents hm htype

end TurnedAway

/-- Handling a message gives the session to its sender, if to anybody. -/
theorem owner_handle_cases (r : Registry) (wire : Nat) (client : String) (m : Message)
    (howner : (r.handle wire client m).2.owner = some owner) :
    r.owner = some owner ∨ client = owner ∧ m.type = "request" ∧
      (r.handle wire client m).1 = [.publish (.viewerConnected owner), .offer wire owner] := by
  rcases r.handle_cases wire client m with ⟨htype, hhandle⟩ | ⟨-, hhandle⟩ | ⟨_, hhandle, -⟩ <;>
    rw [hhandle] at howner ⊢
  · rcases r.request_cases wire client with ⟨_, -, -, -, hrequest⟩ | ⟨-, hrequest⟩ <;>
      rw [hrequest] at howner ⊢
    · exact .inl howner
    · obtain rfl : client = owner := Option.some.inj howner
      exact .inr ⟨rfl, htype, rfl⟩
  · exact .inl howner
  · exact .inl howner

/-- How a client comes to own the session: it did before, or it has just requested the stream on its
own connection and is sent an offer. -/
theorem owner_dispatch_cases (r : Registry) {event : WireEvent}
    (howner : (r.dispatch event).2.owner = some owner) :
    r.owner = some owner ∨ ∃ wire text m, event = .message wire text ∧
      Message.ofText text = .ok m ∧ m.type = "request" ∧
      (r.dispatch event).2.client? wire = some owner ∧
      (r.dispatch event).1 = [.publish (.viewerConnected owner), .offer wire owner] := by
  cases event with
  | connected wire path => exact .inl howner
  | message wire text =>
    rw [dispatch] at howner ⊢
    rcases r.receive_cases wire text with hreceive | ⟨_, _, -, -, hreceive⟩ |
      ⟨m, client, enrolled, hm, henrolls, hreceive⟩ <;> rw [hreceive] at howner ⊢
    · exact .inl howner
    · exact .inl howner
    · rcases enrolled.owner_handle_cases wire client m howner with howner | ⟨rfl, htype, hactions⟩
      · refine .inl ?_
        rcases henrolls with ⟨-, rfl⟩ | ⟨-, -, rfl⟩ <;> exact howner
      · refine .inr ⟨wire, text, m, rfl, hm, htype, ?_, hactions⟩
        rw [client?_handle]
        exact Enrolls.client? henrolls
  | disconnected wire =>
    refine .inl ?_
    cases hclient : r.client? wire with
    | none => rwa [dispatch, disconnect_of_none hclient] at howner
    | some client =>
      rw [dispatch, disconnect_of_some hclient] at howner
      dsimp only at howner
      split_ifs at howner
      exact howner

/-- An owner that keeps the session keeps its connection. -/
theorem client?_of_owner_kept {event : WireEvent} (h : History (events ++ [event]))
    (howner : (after events).owner = some owner) (hclient : (after events).client? wire = some owner)
    (hkept : (after (events ++ [event])).owner = some owner) :
    (after (events ++ [event])).client? wire = some owner := by
  have hconsistent := consistent_after (History.concat_iff.mp h).1
  rcases client?_after_append h hclient with hkeeps | ⟨-, hclosed⟩
  · exact hkeeps
  · exfalso
    rcases List.mem_append.mp hclosed with hearlier | hlast
    · have hnone := registration?_after_eq_none (History.concat_iff.mp h).1 hearlier
      simp [client?, hnone] at hclient
    · rw [after_concat] at hkept
      exact (hconsistent.owner_dispatch_ne_iff howner
        ((hconsistent.client?_iff wire owner).mp hclient) event).mpr
        (List.mem_singleton.mp hlast).symm hkept

/-- Whoever is turned away on a connection does not own the session while it is registered there. -/
theorem TurnedAway.owner_ne (haway : TurnedAway events wire) (h : History events)
    {earlier later : List WireEvent} (hall : events = earlier ++ later)
    (hclient : (after earlier).client? wire = some client) :
    (after earlier).owner ≠ some client := by
  induction earlier using List.reverseRecOn generalizing later with
  | nil => simp [empty]
  | append_singleton earlier event ih =>
    intro howner
    have hprefix : History (earlier ++ [event]) := (hall ▸ h).of_append
    have hsplit : events = earlier ++ event :: later := by simpa using hall
    -- Nobody else is registered under the name of the client.
    have honly : ∀ other, (after (earlier ++ [event])).client? other = some client → other = wire :=
      fun other hother ↦ (consistent_after hprefix).eq_wire
        (((consistent_after hprefix).client?_iff wire client).mp hclient) hother
    rcases owner_dispatch_cases _ (after_concat earlier event ▸ howner) with hbefore |
      ⟨other, text, m, rfl, hm, htype, hsender, hactions⟩
    · have hconsistent := consistent_after hprefix.of_append
      obtain ⟨home, hhome⟩ := hconsistent.owner client hbefore
      have hresident := (hconsistent.client?_iff home client).mpr hhome
      obtain rfl := honly home (client?_of_owner_kept hprefix hbefore hresident howner)
      exact ih hsplit hresident hbefore
    · obtain rfl := honly other (by rw [after_concat]; exact hsender)
      obtain ⟨name, hbusy⟩ := haway.refused earlier later text m hsplit hm htype
      simp [hactions] at hbusy

/-- A viewer that was turned away whenever it requested the stream never owned the session while it
was registered on its connection.  When it leaves, this is reported, and the session is told that
its viewer left exactly if nobody owns it at the time. -/
theorem leave_turnedAway (h : History events) (hclient : (after events).client? wire = some client)
    (haway : TurnedAway events wire) :
    (∀ earlier later, events = earlier ++ later → (after earlier).client? wire = some client →
        (after earlier).owner ≠ some client) ∧
      ((after events).dispatch (.disconnected wire)).1 =
        .publish (.viewerDisconnected client) ::
          (if (after events).owner = none then [.viewerLeft client] else []) := by
  have hnever : ∀ earlier later, events = earlier ++ later →
      (after earlier).client? wire = some client → (after earlier).owner ≠ some client :=
    fun _ _ hall ↦ haway.owner_ne h hall
  refine ⟨hnever, ?_⟩
  rw [dispatch, disconnect_of_some hclient]
  cases howner : (after events).owner with
  | none => rfl
  | some owner =>
    have hne : ¬owner = client := by
      rintro rfl
      exact hnever events [] (List.append_nil events).symm hclient howner
    simp [hne]

/-- The owner leaves, and the viewer that it kept from the session is still there. -/
def vacated : List WireEvent := contested ++ [.disconnected 1]

theorem history_vacated : History vacated :=
  .next history_contested (show WireEvent.MayFollow _ (.disconnected 1) from
    ⟨some "c1", by simp [contested]⟩)

theorem after_vacated : after vacated = ⟨[⟨2, some "c2", some "c2"⟩], [("c2", 2)], none⟩ := by
  rw [vacated, after_concat, after_contested]
  rfl

theorem turnedAway_vacated : TurnedAway vacated 2 := by
  have hbusy : Action.send 2 (Message.busy "c2").text ∈ ((after [.connected 1 (some "c1"),
      .message 1 requestText, .connected 2 (some "c2")]).dispatch (.message 2 requestText)).1 := by
    simp only [after, List.foldl, dispatch, receive, ofText_requestText]
    exact List.mem_cons_self
  have hcontested : TurnedAway contested 2 :=
    .of_first (by simp) ofText_requestText rfl hbusy
  exact hcontested.concat (by simp)

theorem leave_turnedAway_vacated :
    TurnedAway vacated 2 ∧ (∀ earlier later, vacated = earlier ++ later →
        (after earlier).client? 2 = some "c2" → (after earlier).owner ≠ some "c2") ∧
      ((after vacated).dispatch (.disconnected 2)).1 =
        [.publish (.viewerDisconnected "c2"), .viewerLeft "c2"] := by
  have hclient : (after vacated).client? 2 = some "c2" := by rw [after_vacated]; rfl
  have howner : (after vacated).owner = none := by rw [after_vacated]
  obtain ⟨hnever, hleave⟩ := leave_turnedAway history_vacated hclient turnedAway_vacated
  exact ⟨turnedAway_vacated, hnever, by rw [hleave, if_pos howner]⟩

/-- A viewer that was turned away does not always leave unnoticed by the session: it is told so if
its owner left first. -/
theorem not_always_unnoticed :
    ¬∀ events wire client, History events → (after events).client? wire = some client →
      TurnedAway events wire →
      ∀ name, Action.viewerLeft name ∉ ((after events).dispatch (.disconnected wire)).1 := by
  intro hall
  have hclient : (after vacated).client? 2 = some "c2" := by rw [after_vacated]; rfl
  apply hall vacated 2 "c2" history_vacated hclient turnedAway_vacated "c2"
  have howner : (after vacated).owner = none := by rw [after_vacated]
  simp [dispatch, disconnect_of_some hclient, howner]

end Registry

end LiveCamera.Signaling
