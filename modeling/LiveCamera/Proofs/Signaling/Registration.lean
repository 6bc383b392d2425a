import LiveCamera.Association
import LiveCamera.Signaling.Registry
import Mathlib.Tactic.SplitIfs

/-!
# Who is registered where

The registry keeps two tables: the connections with the clients registered on them, and the clients
with their connections.  `Consistent` says that one is the inverse of the other and that the owner
of the session is registered.  Every event on the wire keeps it, as long as no connection is opened
twice; `Reachable` lists the registries that come about in this way.

What an event does is stated once, in terms of what can be looked up afterwards.
-/

namespace LiveCamera.Signaling

/-- A request that leaves it to the connection who sends it. -/
def requestText : String := "\x7b\"type\":\"request\"\x7d"

theorem ofText_requestText :
    Message.ofText requestText = .ok ⟨[("type", .string "request")]⟩ := by
  have hread : Json.Node.ofText? requestText =
      some (.record [(some "type", .string (some "request"))]) := by
    simp only [Json.Node.ofText?, requestText, String.reduceToList]
    rfl
  have hfields : Json.Datum.ofText? requestText =
      some (.record [("type", .string "request")]) := by
    simp [Json.Datum.ofText?, hread, Json.Node.datum?, Json.datumMembers?, Json.insertMember,
      Json.nestingLimit]
  simp only [Message.ofText, hfields]
  rfl

namespace Registry

variable {r : Registry} {wire : Nat} {client : String}

/-- The client that registered on an open connection. -/
def client? (r : Registry) (wire : Nat) : Option String :=
  (r.registration? wire).bind (·.client)

/-- The registry in which an open connection is registered under an identifier. -/
def enlist (r : Registry) (wire : Nat) (client : String) : Registry :=
  { r with
    connections := r.connections.map fun c ↦
      if c.wire = wire then { c with client := some client } else c
    clients := r.clients.filter (·.1 != client) ++ [(client, wire)] }

/-- The registry without an open connection. -/
def dropWire (r : Registry) (wire : Nat) : Registry :=
  { r with connections := r.connections.filter (·.wire != wire) }

/-- The registry without a registered client. -/
def dropClient (r : Registry) (client : String) : Registry :=
  { r with clients := r.clients.filter (·.1 != client) }

/-! ## Look-ups -/

theorem find?_filter_wire (connections : List Registration) (wire other : Nat) :
    (connections.filter (·.wire != wire)).find? (·.wire == other) =
      if other = wire then none else connections.find? (·.wire == other) := by
  rw [List.find?_filter]
  split_ifs with hother
  · simp [hother]
  · refine congrArg (connections.find? ·) (funext fun c ↦ ?_)
    by_cases hc : c.wire = other <;> simp [hc, hother]

theorem wire_of_registration?_eq_some {registration : Registration}
    (h : r.registration? wire = some registration) : registration.wire = wire := by
  simpa using List.find?_some h

theorem registration?_connect (r : Registry) (wire : Nat) (path : Option String) (other : Nat) :
    (r.connect wire path).registration? other =
      if other = wire then some ⟨wire, none, path.filter (!·.isEmpty)⟩
      else r.registration? other := by
  simp only [registration?, connect, List.find?_append, find?_filter_wire]
  split_ifs with hother
  · simp [hother]
  · have hne : ¬wire = other := fun h ↦ hother h.symm
    simp [hne]

theorem registration?_enlist (r : Registry) (wire : Nat) (client : String) (other : Nat) :
    (r.enlist wire client).registration? other =
      (r.registration? other).map fun c ↦
        if c.wire = wire then { c with client := some client } else c := by
  simp only [registration?, enlist, List.find?_map]
  congr 2
  funext c
  simp only [Function.comp_apply]
  split_ifs <;> rfl

@[simp]
theorem registration?_dropWire (r : Registry) (wire other : Nat) :
    (r.dropWire wire).registration? other =
      if other = wire then none else r.registration? other :=
  find?_filter_wire r.connections wire other

@[simp]
theorem client?_connect (r : Registry) (wire : Nat) (path : Option String) (other : Nat) :
    (r.connect wire path).client? other = if other = wire then none else r.client? other := by
  rw [client?, registration?_connect]
  split_ifs <;> rfl

theorem client?_enlist {registration : Registration}
    (h : r.registration? wire = some registration) (client : String) (other : Nat) :
    (r.enlist wire client).client? other =
      if other = wire then some client else r.client? other := by
  rw [client?, registration?_enlist]
  split_ifs with hother
  · rw [hother, h]
    simp [wire_of_registration?_eq_some h]
  · cases hregistration : r.registration? other with
    | none => simp [client?, hregistration]
    | some c =>
      have hwire : ¬c.wire = wire := wire_of_registration?_eq_some hregistration ▸ hother
      simp [client?, hregistration, hwire]

@[simp]
theorem client?_dropWire (r : Registry) (wire other : Nat) :
    (r.dropWire wire).client? other = if other = wire then none else r.client? other := by
  rw [client?, registration?_dropWire]
  split_ifs <;> rfl

@[simp]
theorem wire?_enlist (r : Registry) (wire : Nat) (client other : String) :
    (r.enlist wire client).wire? other = if other = client then some wire else r.wire? other := by
  simp only [wire?, enlist, List.lookup_append, lookup_filter_fst_ne]
  split_ifs with hother
  · simp [hother]
  · simp [List.lookup_cons, beq_eq_false_iff_ne.2 hother]

@[simp]
theorem wire?_dropClient (r : Registry) (client other : String) :
    (r.dropClient client).wire? other = if other = client then none else r.wire? other :=
  lookup_filter_fst_ne client other r.clients

/-! ## What an event does -/

/-- What it comes to that a connection registers: it is not open, it is registered already, the
identifier belongs to another connection, or it is enlisted. -/
theorem enroll_cases (r : Registry) (wire : Nat) (m : Message) :
    r.registration? wire = none ∧ r.enroll wire m = (.gone, r) ∨
      (∃ client, r.client? wire = some client ∧ r.enroll wire m = (.client client, r)) ∨
      ∃ registration, r.registration? wire = some registration ∧ registration.client = none ∧
        ((∃ other, r.wire? (identify registration m) = some other ∧ other ≠ wire ∧
            r.enroll wire m = (.duplicate (identify registration m), r)) ∨
          ((∀ other, r.wire? (identify registration m) = some other → other = wire) ∧
            r.enroll wire m =
              (.client (identify registration m), r.enlist wire (identify registration m)))) := by
  cases hregistration : r.registration? wire with
  | none => exact .inl ⟨rfl, by simp only [enroll, hregistration]⟩
  | some registration =>
    refine .inr ?_
    cases hclient : registration.client with
    | some client =>
      refine .inl ⟨client, ?_, ?_⟩
      · simp [client?, hregistration, hclient]
      · simp only [enroll, hregistration, hclient]
    | none =>
      refine .inr ⟨registration, rfl, hclient, ?_⟩
      by_cases htaken : (r.wire? (identify registration m)).any (· != wire) = true
      · obtain ⟨other, hother, hne⟩ := (Option.any_eq_true _ _).mp htaken
        refine .inl ⟨other, hother, by simpa using hne, ?_⟩
        simp only [enroll, hregistration, hclient, htaken, if_true]
      · refine .inr ⟨?_, ?_⟩
        · intro other hother
          simpa [hother] using htaken
        · simp only [enroll, hregistration, hclient]
          rw [if_neg htaken]
          rfl

theorem receive_of_error {text : String} {cause : Failure} (h : Message.ofText text = .error cause)
    (r : Registry) (wire : Nat) : r.receive wire text = ([], r) := by
  simp only [receive, h]

/-- The sender of a message is registered before the message is handled. -/
def Enrolls (r : Registry) (wire : Nat) (client : String) (enrolled : Registry) : Prop :=
  r.client? wire = some client ∧ enrolled = r ∨
    (∃ registration, r.registration? wire = some registration ∧ registration.client = none) ∧
      (∀ other, r.wire? client = some other → other = wire) ∧ enrolled = r.enlist wire client

theorem Enrolls.client? {enrolled : Registry} (henrolls : r.Enrolls wire client enrolled) :
    enrolled.client? wire = some client := by
  rcases henrolls with ⟨hclient, rfl⟩ | ⟨⟨registration, hregistration, -⟩, -, rfl⟩
  · exact hclient
  · rw [client?_enlist hregistration, if_pos rfl]

/-- A text is ignored, its sender is turned away, or its sender is registered and the message is
handled. -/
theorem receive_cases (r : Registry) (wire : Nat) (text : String) :
    r.receive wire text = ([], r) ∨
      (∃ client other, r.wire? client = some other ∧ other ≠ wire ∧ r.receive wire text =
        ([.send wire (Message.busy client).text, .publish (.viewerRejected client)], r)) ∨
      ∃ m client enrolled, Message.ofText text = .ok m ∧ r.Enrolls wire client enrolled ∧
        r.receive wire text = enrolled.handle wire client m := by
  cases hm : Message.ofText text with
  | error cause => exact .inl (receive_of_error hm r wire)
  | ok m =>
    rcases r.enroll_cases wire m with ⟨-, henroll⟩ | ⟨client, hclient, henroll⟩ |
      ⟨registration, hregistration, hnone, ⟨other, hother, hne, henroll⟩ | ⟨hfree, henroll⟩⟩
    · exact .inl (by simp only [receive, hm, henroll])
    · refine .inr (.inr ⟨m, client, r, rfl, .inl ⟨hclient, rfl⟩, ?_⟩)
      simp only [receive, hm, henroll]
    · refine .inr (.inl ⟨_, other, hother, hne, ?_⟩)
      simp only [receive, hm, henroll]
    · refine .inr (.inr ⟨m, _, _, rfl, .inr ⟨⟨registration, hregistration, hnone⟩, hfree, rfl⟩, ?_⟩)
      simp only [receive, hm, henroll]

theorem receive_of_client? (h : r.client? wire = some client) {text : String} {m : Message}
    (hm : Message.ofText text = .ok m) : r.receive wire text = r.handle wire client m := by
  obtain ⟨registration, hregistration, hclient⟩ := Option.bind_eq_some_iff.mp h
  simp only [receive, hm, enroll, hregistration, hclient]

theorem handle_of_request {m : Message} (h : m.type = "request") (r : Registry) (wire : Nat)
    (client : String) : r.handle wire client m = r.request wire client := by
  simp only [handle, h]

/-- A request is turned away if another registered client owns the session, and else the client
becomes the owner. -/
theorem request_cases (r : Registry) (wire : Nat) (client : String) :
    (∃ owner, r.owner = some owner ∧ owner ≠ client ∧ r.isRegistered owner = true ∧
        r.request wire client =
          ([.send wire (Message.busy client).text, .publish (.viewerRejected client)], r)) ∨
      (∀ owner, r.owner = some owner → owner = client ∨ r.isRegistered owner = false) ∧
        r.request wire client =
          ([.publish (.viewerConnected client), .offer wire client],
            { r with owner := some client }) := by
  by_cases htaken : (r.owner.any fun owner ↦ owner != client && r.isRegistered owner) = true
  · obtain ⟨owner, howner, hother⟩ := (Option.any_eq_true _ _).mp htaken
    obtain ⟨hne, hregistered⟩ := (Bool.and_eq_true _ _).mp hother
    refine .inl ⟨owner, howner, by simpa using hne, hregistered, ?_⟩
    rw [request, if_pos htaken]
  · refine .inr ⟨?_, ?_⟩
    · intro owner howner
      by_cases hclient : owner = client
      · exact .inl hclient
      · exact .inr (by simpa [howner, hclient] using htaken)
    · rw [request, if_neg htaken]

/-- Only a request changes the registry when a message is handled, only an answer reaches the
session as one. -/
theorem handle_cases (r : Registry) (wire : Nat) (client : String) (m : Message) :
    m.type = "request" ∧ r.handle wire client m = r.request wire client ∨
      m.type = "answer" ∧ r.handle wire client m = (r.answer client m, r) ∨
      ∃ actions, r.handle wire client m = (actions, r) ∧ ∀ sdp, Action.answer sdp ∉ actions := by
  have hrelay : ∀ sdp, Action.answer sdp ∉ r.relay client m := by
    intro sdp
    unfold relay
    split <;> simp
  unfold handle
  split
  · exact .inl ⟨‹_›, rfl⟩
  · exact .inr (.inl ⟨‹_›, rfl⟩)
  · refine .inr (.inr ?_)
    split_ifs
    · exact ⟨_, rfl, by simp⟩
    · exact ⟨_, rfl, hrelay⟩
  · exact .inr (.inr ⟨_, rfl, hrelay⟩)

/-- A connection without a registered client leaves no trace. -/
theorem disconnect_of_none (h : r.client? wire = none) :
    r.disconnect wire = ([], r.dropWire wire) := by
  cases hregistration : r.registration? wire with
  | none =>
    have hkept : r.connections.filter (·.wire != wire) = r.connections := by
      simpa [List.filter_eq_self, bne] using List.find?_eq_none.mp hregistration
    simp only [disconnect, hregistration, dropWire, hkept]
  | some registration =>
    have hclient : registration.client = none := by simpa [client?, hregistration] using h
    simp only [disconnect, hregistration, hclient, dropWire]

/-- A registered client that leaves takes the session along if it owned it, or if nobody did. -/
theorem disconnect_of_some (h : r.client? wire = some client) :
    r.disconnect wire =
      (.publish (.viewerDisconnected client) ::
          (if r.owner.all (· == client) then [.viewerLeft client] else []),
        { (r.dropWire wire).dropClient client with
          owner := if r.owner.all (· == client) then none else r.owner }) := by
  obtain ⟨registration, hregistration, hclient⟩ := Option.bind_eq_some_iff.mp h
  simp only [disconnect, hregistration, hclient, dropWire, dropClient]
  split_ifs <;> rfl

/-! ## The tables agree -/

/-- Clients and connections name each other, and the owner of the session is registered. -/
structure Consistent (r : Registry) : Prop where
  client?_iff : ∀ wire client, r.client? wire = some client ↔ r.wire? client = some wire
  owner : ∀ owner, r.owner = some owner → ∃ wire, r.wire? owner = some wire

theorem consistent_empty : empty.Consistent where
  client?_iff := by simp [client?, registration?, wire?, empty]
  owner := by simp [empty]

/-- It makes no difference to who is registered whether a connection without a client is open. -/
theorem ite_client?_eq (hwire : r.client? wire = none) (other : Nat) :
    (if other = wire then none else r.client? other) = r.client? other := by
  split_ifs with hother
  · rw [hother, hwire]
  · rfl

namespace Consistent

/-- A connection that was not open before. -/
theorem connect (h : r.Consistent) (hwire : r.client? wire = none) (path : Option String) :
    (r.connect wire path).Consistent where
  client?_iff other name := by
    rw [client?_connect, ite_client?_eq hwire]
    exact h.client?_iff other name
  owner := h.owner

/-- A connection whose client registers under an identifier that nobody else has. -/
theorem enlist (h : r.Consistent) {registration : Registration}
    (hregistration : r.registration? wire = some registration) (hnone : registration.client = none)
    (hfree : ∀ other, r.wire? client = some other → other = wire) :
    (r.enlist wire client).Consistent := by
  have hwire : r.client? wire = none := by simp [client?, hregistration, hnone]
  -- The identifier is free: whoever has it would be this connection, which has no client yet.
  have hclient : ∀ other, r.wire? client ≠ some other := by
    intro other hother
    obtain rfl := hfree other hother
    rw [(h.client?_iff other client).mpr hother] at hwire
    cases hwire
  refine ⟨?_, ?_⟩
  · intro other name
    rw [client?_enlist hregistration, wire?_enlist]
    by_cases hname : name = client
    · subst hname
      have hother : r.client? other ≠ some name := fun hsome ↦
        hclient other ((h.client?_iff other name).mp hsome)
      by_cases hwires : other = wire
      · simp [hwires]
      · simp [hwires, hother, Ne.symm hwires]
    · have hnotSelf : r.wire? name ≠ some wire := fun hsome ↦ by
        rw [(h.client?_iff wire name).mpr hsome] at hwire
        cases hwire
      by_cases hwires : other = wire
      · simp [hwires, hname, Ne.symm hname, hnotSelf]
      · simpa [hwires, hname] using h.client?_iff other name
  · intro owner howner
    obtain ⟨other, hother⟩ := h.owner owner howner
    rw [wire?_enlist]
    split_ifs
    · exact ⟨wire, rfl⟩
    · exact ⟨other, hother⟩

/-- A connection closes on which nobody was registered. -/
theorem dropWire (h : r.Consistent) (hwire : r.client? wire = none) :
    (r.dropWire wire).Consistent where
  client?_iff other name := by
    rw [client?_dropWire, ite_client?_eq hwire]
    exact h.client?_iff other name
  owner := h.owner

/-- A connection closes with its client. -/
theorem disconnect (h : r.Consistent) (wire : Nat) : (r.disconnect wire).2.Consistent := by
  cases hwire : r.client? wire with
  | none =>
    rw [disconnect_of_none hwire]
    exact h.dropWire hwire
  | some client =>
    rw [disconnect_of_some hwire]
    have hclient := (h.client?_iff wire client).mp hwire
    refine ⟨?_, ?_⟩
    · intro other name
      change ((r.dropWire wire).client? other = some name) ↔
        ((r.dropWire wire).dropClient client).wire? name = some other
      rw [client?_dropWire, wire?_dropClient,
        show (r.dropWire wire).wire? name = r.wire? name from rfl]
      by_cases hname : name = client
      -- The client had no other connection, and the connection no other client.
      · subst hname
        have hother : other ≠ wire → r.client? other ≠ some name := fun hne hsome ↦
          hne (Option.some.inj (((h.client?_iff other name).mp hsome).symm.trans hclient))
        by_cases hwires : other = wire <;> simp [hwires, hother]
      · have hnotSelf : r.wire? name ≠ some wire := fun hsome ↦
          hname (Option.some.inj (((h.client?_iff wire name).mpr hsome).symm.trans hwire))
        by_cases hwires : other = wire
        · simp [hwires, hname, hnotSelf]
        · simpa [hwires, hname] using h.client?_iff other name
    · intro owner howner
      change ∃ other, ((r.dropWire wire).dropClient client).wire? owner = some other
      dsimp only at howner
      split_ifs at howner with howned
      have hne : owner ≠ client := by simpa [howner] using howned
      rw [wire?_dropClient, if_neg hne]
      exact h.owner owner howner

/-- Handling a message of a registered client. -/
theorem handle (h : r.Consistent) (hclient : r.client? wire = some client) (m : Message) :
    (r.handle wire client m).2.Consistent := by
  rcases r.handle_cases wire client m with ⟨-, hhandle⟩ | ⟨-, hhandle⟩ | ⟨_, hhandle, -⟩ <;>
    rw [hhandle]
  · rcases r.request_cases wire client with ⟨_, -, -, -, hrequest⟩ | ⟨-, hrequest⟩ <;>
      rw [hrequest]
    · exact h
    · refine ⟨h.client?_iff, ?_⟩
      intro owner howner
      obtain rfl : client = owner := Option.some.inj howner
      exact ⟨wire, (h.client?_iff wire client).mp hclient⟩
  · exact h
  · exact h

theorem enrolls (h : r.Consistent) {enrolled : Registry}
    (henrolls : r.Enrolls wire client enrolled) :
    enrolled.Consistent ∧ enrolled.client? wire = some client := by
  refine ⟨?_, Enrolls.client? henrolls⟩
  rcases henrolls with ⟨-, rfl⟩ | ⟨⟨registration, hregistration, hnone⟩, hfree, rfl⟩
  · exact h
  · exact h.enlist hregistration hnone hfree

theorem receive (h : r.Consistent) (wire : Nat) (text : String) :
    (r.receive wire text).2.Consistent := by
  rcases r.receive_cases wire text with hreceive | ⟨_, _, -, -, hreceive⟩ |
    ⟨m, client, enrolled, -, henrolls, hreceive⟩ <;> rw [hreceive]
  · exact h
  · exact h
  · obtain ⟨henrolled, hclient⟩ := h.enrolls henrolls
    exact henrolled.handle hclient m

end Consistent

/-! ## Runs -/

/-- The registries of an endpoint with the connections that were opened so far, none of them twice.
An endpoint that stops forgets its viewers. -/
inductive Reachable : List Nat → Registry → Prop
  | empty : Reachable [] empty
  | connected {opened : List Nat} {r : Registry} {wire : Nat} (h : Reachable opened r)
      (hwire : wire ∉ opened) (path : Option String) :
      Reachable (wire :: opened) (r.dispatch (.connected wire path)).2
  | message {opened : List Nat} {r : Registry} (h : Reachable opened r) (wire : Nat)
      (text : String) : Reachable opened (r.dispatch (.message wire text)).2
  | disconnected {opened : List Nat} {r : Registry} (h : Reachable opened r) (wire : Nat) :
      Reachable opened (r.dispatch (.disconnected wire)).2
  | stopped {opened : List Nat} {r : Registry} (h : Reachable opened r) : Reachable opened .empty

theorem registration?_handle (r : Registry) (wire : Nat) (client : String) (m : Message)
    (other : Nat) :
    (r.handle wire client m).2.registration? other = r.registration? other := by
  rcases r.handle_cases wire client m with ⟨-, hhandle⟩ | ⟨-, hhandle⟩ | ⟨_, hhandle, -⟩ <;>
    rw [hhandle]
  rcases r.request_cases wire client with ⟨_, -, -, -, hrequest⟩ | ⟨-, hrequest⟩ <;> rw [hrequest]
  rfl

/-- No text opens a connection. -/
theorem registration?_receive_eq_none {other : Nat} (h : r.registration? other = none) (wire : Nat)
    (text : String) : (r.receive wire text).2.registration? other = none := by
  rcases r.receive_cases wire text with hreceive | ⟨_, _, -, -, hreceive⟩ |
    ⟨m, client, enrolled, -, henrolls, hreceive⟩ <;> rw [hreceive]
  · exact h
  · exact h
  · rw [registration?_handle]
    rcases henrolls with ⟨-, rfl⟩ | ⟨-, -, rfl⟩
    · exact h
    · rw [registration?_enlist, h, Option.map_none]

theorem registration?_disconnect_eq_none {other : Nat} (h : r.registration? other = none)
    (wire : Nat) : (r.disconnect wire).2.registration? other = none := by
  have hdrop : (r.dropWire wire).registration? other = none := by
    rw [registration?_dropWire, h, ite_self]
  cases hwire : r.client? wire with
  | none => simpa only [disconnect_of_none hwire] using hdrop
  | some client =>
    rw [disconnect_of_some hwire]
    exact hdrop

namespace Reachable

variable {opened : List Nat}

theorem registration?_eq_none (h : Reachable opened r) (hwire : wire ∉ opened) :
    r.registration? wire = none := by
  induction h with
  | empty => rfl
  | @connected _ r other _ _ path ih =>
    obtain ⟨hne, hrest⟩ := not_or.mp (mt List.mem_cons.mpr hwire)
    simpa only [dispatch, registration?_connect, if_neg hne] using ih hrest
  | message _ other text ih => exact registration?_receive_eq_none (ih hwire) other text
  | disconnected _ other ih => exact registration?_disconnect_eq_none (ih hwire) other
  | stopped => rfl

theorem consistent (h : Reachable opened r) : r.Consistent := by
  induction h with
  | empty => exact consistent_empty
  | connected hreachable hwire path ih =>
    refine ih.connect ?_ path
    rw [client?, hreachable.registration?_eq_none hwire, Option.bind_none]
  | message _ wire text ih => exact ih.receive wire text
  | disconnected _ wire ih => exact ih.disconnect wire
  | stopped => exact consistent_empty

end Reachable

end Registry

end LiveCamera.Signaling
