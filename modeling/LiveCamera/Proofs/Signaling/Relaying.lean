import LiveCamera.Proofs.Rehearsal.Turns
import LiveCamera.Proofs.Signaling.Messages

/-!
# Messages between viewers

What is neither a request nor an answer nor a candidate for the device is passed on to the viewer
that it names.  `relayed_exactly` says that the viewer reads every field as it was sent, nested ones
included, except that the identifier has become the sender's, and that nothing else comes of the
message.  A message that names no other registered viewer is dropped.
-/

namespace LiveCamera

open Signaling Json

namespace Signaling.Message

variable {m : Message} {text sender : String}

/-- Whether a message is meant for another viewer. -/
def IsRelayed (m : Message) : Prop :=
  m.type ≠ "request" ∧ m.type ≠ "answer" ∧ ¬(m.type = "candidate" ∧ m.isForDevice = true)

theorem Tidy.relayedFrom (h : m.Tidy) (sender : String) : (m.relayedFrom sender).Tidy := by
  cases h with
  | record hnames hvalues =>
    exact .record (hnames.insertMember "id" (.string sender))
      (forall_mem_insertMember (.string sender) hvalues)

theorem Whole.relayedFrom (h : m.Whole) (sender : String) : (m.relayedFrom sender).Whole := by
  cases h with
  | record hvalues => exact .record (forall_mem_insertMember (.string sender) hvalues)

theorem lookup_relayedFrom (m : Message) (sender name : String) :
    (m.relayedFrom sender).fields.lookup name =
      if name = "id" then some (.string sender) else m.fields.lookup name :=
  lookup_insertMember "id" (Datum.string sender) m.fields name

theorem textField?_relayedFrom {name : String} (h : name ≠ "id") (m : Message) (sender : String) :
    (m.relayedFrom sender).textField? name = m.textField? name := by
  rw [textField?, lookup_relayedFrom, if_neg h, textField?]

/-- The last sender counts. -/
theorem relayedFrom_relayedFrom (m : Message) (sender again : String) :
    (m.relayedFrom sender).relayedFrom again = m.relayedFrom again :=
  congrArg Message.mk (insertMember_insertMember "id" (.string again) (.string sender) m.fields)

/-- What is passed on is read as it was sent. -/
theorem ofText_relayedFrom (hm : ofText text = .ok m) (hwhole : m.Whole) (sender : String) :
    ofText (m.relayedFrom sender).text = .ok (m.relayedFrom sender) := by
  refine ofText_text ((tidy_of_ofText hm).relayedFrom sender) (hwhole.relayedFrom sender) ?_
  rw [textField?_relayedFrom (by decide)]
  exact (ofText_eq_ok_iff.mp hm).2

/-- What a text is that passes on a message of a sender: every field reads as it was sent, but the
identifier is the sender's, and passing it on again comes to passing on the message itself. -/
structure Relays (sent : String) (m : Message) (sender : String) (read : Message) : Prop where
  ofText : ofText sent = .ok read
  fields : ∀ name, read.fields.lookup name =
    if name = "id" then some (.string sender) else m.fields.lookup name
  again : ∀ again, (read.relayedFrom again).text = (m.relayedFrom again).text

theorem relays_relayedFrom (hm : Message.ofText text = .ok m) (hwhole : m.Whole) (sender : String) :
    Relays (m.relayedFrom sender).text m sender (m.relayedFrom sender) where
  ofText := ofText_relayedFrom hm hwhole sender
  fields := m.lookup_relayedFrom sender
  again := fun again ↦ by rw [relayedFrom_relayedFrom]

end Signaling.Message

namespace Signaling.Registry

variable {r : Registry} {client sender : String} {wire other : Nat} {m : Message}

/-- A registered client can be reached. -/
theorem Consistent.reachable?_eq (h : r.Consistent) (client : String) :
    r.reachable? client = r.wire? client := by
  unfold reachable?
  cases hwire : r.wire? client with
  | none => rfl
  | some wire =>
    obtain ⟨registration, hregistration, -⟩ :=
      Option.bind_eq_some_iff.mp ((h.client?_iff wire client).mpr hwire)
    rw [Option.bind_some, hregistration, Option.map_some,
      wire_of_registration?_eq_some hregistration]

theorem handle_of_isRelayed (h : m.IsRelayed) (r : Registry) (wire : Nat) (client : String) :
    r.handle wire client m = (r.relay client m, r) := by
  obtain ⟨hrequest, hanswer, hcandidate⟩ := h
  unfold handle
  split
  · exact absurd ‹_› hrequest
  · exact absurd ‹_› hanswer
  · next htype => rw [if_neg fun hdevice ↦ hcandidate ⟨htype, hdevice⟩]
  · rfl

theorem Consistent.relay_of_wire? (h : r.Consistent) (hid : m.id? = some client)
    (hne : client ≠ sender) (hwire : r.wire? client = some other) :
    r.relay sender m = [.send other (m.relayedFrom sender).text] := by
  have hfound : (m.id?.filter (· != sender)).bind r.reachable? = some other := by
    simp [hid, Option.filter, hne, h.reachable?_eq, hwire]
  simp only [relay, hfound]

theorem Consistent.relay_of_nobody (h : r.Consistent)
    (hid : ∀ client, m.id? = some client → client = sender ∨ r.wire? client = none) :
    r.relay sender m = [] := by
  have hnobody : (m.id?.filter (· != sender)).bind r.reachable? = none := by
    rw [Option.bind_eq_none_iff]
    intro client hclient
    obtain ⟨hnamed, hother⟩ := Option.filter_eq_some_iff.mp hclient
    rw [h.reachable?_eq]
    exact (hid client hnamed).resolve_left (by simpa using hother)
  simp only [relay, hnobody]

end Signaling.Registry

namespace Rehearsal

variable {x : Rehearsal} {opened : List Nat}

/-- A registered viewer sends a message that is meant for another viewer.  If it names another
registered viewer, one text is sent, on the connection of that viewer, and it reads as the message
with the identifier of the sender; if it names nobody, the sender itself or somebody who is not
registered, nothing is sent.  Nothing else changes. -/
theorem relayed_exactly (hx : Reachable opened x) {wire : Nat} {sender text : String} {m : Message}
    (hsender : x.registry.client? wire = some sender) (hm : Message.ofText text = .ok m)
    (hrelayed : m.IsRelayed) (hwhole : m.Whole) :
    (∀ client other, m.id? = some client → client ≠ sender →
        x.registry.wire? client = some other →
        ∃ sent read, Message.Relays sent m sender read ∧
          x.take (.dispatch (.message wire text)) =
            { x with outbox := x.outbox ++ [(other, sent)] }) ∧
      ((∀ client, m.id? = some client → client = sender ∨ x.registry.wire? client = none) →
        x.take (.dispatch (.message wire text)) = x) := by
  have hconsistent := hx.registry.consistent
  have hdispatch : x.registry.dispatch (.message wire text) =
      (x.registry.relay sender m, x.registry) := by
    rw [Registry.dispatch, Registry.receive_of_client? hsender hm,
      Registry.handle_of_isRelayed hrelayed]
  refine ⟨?_, ?_⟩
  · intro client other hid hne hwire
    refine ⟨_, _, Message.relays_relayedFrom hm hwhole sender, ?_⟩
    simp only [take, hdispatch, hconsistent.relay_of_wire? hid hne hwire]
    rfl
  · intro hid
    simp only [take, hdispatch, hconsistent.relay_of_nobody hid]
    rfl

/-- A message between viewers that the device does not know. -/
def chatText : String :=
  "\x7b\"type\":\"chat\",\"say\":[\"hi\",7],\"id\":\"c2\"\x7d"

def chat : Message :=
  ⟨[("id", .string "c2"), ("say", .list [.string "hi", .number (.int 7)]),
    ("type", .string "chat")]⟩

theorem ofText_chatText : Message.ofText chatText = .ok chat := by
  have hread : Node.ofText? chatText = some (.record
      [(some "type", .string (some "chat")),
        (some "say", .list [.string (some "hi"), .number ⟨false, ['7'], none, none⟩]),
        (some "id", .string (some "c2"))]) := by
    simp only [Node.ofText?, chatText, String.reduceToList]
    rfl
  have hfields : Datum.ofText? chatText = some (.record chat.fields) := by
    simp only [Datum.ofText?, hread]
    rfl
  simp only [Message.ofText, hfields]
  rfl

theorem isRelayed_chat : chat.IsRelayed :=
  ⟨by decide, by decide, fun h ↦ absurd h.1 (by decide)⟩

theorem whole_chat : chat.Whole := by
  have hsay : Datum.Whole (.list [.string "hi", .number (.int 7)]) := by
    refine .list ?_
    simp only [List.mem_cons, List.not_mem_nil, or_false, forall_eq_or_imp, forall_eq]
    exact ⟨.string "hi", .number ⟨by decide, by decide⟩⟩
  refine .record ?_
  simp only [chat, List.mem_cons, List.not_mem_nil, or_false, forall_eq_or_imp, forall_eq]
  exact ⟨.string "c2", hsay, .string "chat"⟩

/-- The first of two viewers writes to the second one; what the second one writes to itself is
dropped. -/
theorem relayed_exactly_chat :
    let x := ((new .working ⟨.h264, [], false, 100⟩ .initial true).withSession
      ((Session.new ⟨.h264, [], false, 100⟩ []).run [])).takeAll
        [.dispatch (.connected 1 (some "c1")), .dispatch (.message 1 requestText),
          .dispatch (.connected 2 (some "c2")), .dispatch (.message 2 requestText)]
    (∃ sent read, Message.ofText sent = .ok read ∧
        read.fields.lookup "id" = some (.string "c1") ∧
        read.fields.lookup "say" = some (.list [.string "hi", .number (.int 7)]) ∧
        x.take (.dispatch (.message 1 chatText)) =
          { x with outbox := x.outbox ++ [(2, sent)] }) ∧
      x.take (.dispatch (.message 2 chatText)) = x := by
  intro x
  have hregistry : x.registry =
      ⟨[⟨1, some "c1", some "c1"⟩, ⟨2, some "c2", some "c2"⟩], [("c1", 1), ("c2", 2)],
        some "c1"⟩ := by
    simp only [x, takeAll, List.foldl, registry_take, Registry.dispatch, Registry.receive,
      ofText_requestText]
    rfl
  obtain ⟨opened, hx⟩ : ∃ opened, Reachable opened x :=
    (Reachable.start .working ⟨.h264, [], false, 100⟩ [] [] .initial true).takeAll _ (by decide)
  clear_value x
  have hfirst : x.registry.client? 1 = some "c1" := by rw [hregistry]; rfl
  have hsecond : x.registry.client? 2 = some "c2" := by rw [hregistry]; rfl
  have hwire : x.registry.wire? "c2" = some 2 := by rw [hregistry]; rfl
  obtain ⟨hsend, -⟩ := relayed_exactly hx hfirst ofText_chatText isRelayed_chat whole_chat
  obtain ⟨-, hdrop⟩ := relayed_exactly hx hsecond ofText_chatText isRelayed_chat whole_chat
  refine ⟨?_, hdrop ?_⟩
  · obtain ⟨sent, read, hrelays, htake⟩ := hsend "c2" 2 rfl (by decide) hwire
    exact ⟨sent, read, hrelays.ofText, hrelays.fields "id", hrelays.fields "say", htake⟩
  · intro client hid
    exact .inl (Option.some.inj hid).symm

end Rehearsal

end LiveCamera
