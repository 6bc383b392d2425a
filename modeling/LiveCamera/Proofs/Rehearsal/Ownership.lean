import LiveCamera.Proofs.Rehearsal.Turns

/-!
# One viewer owns the session

While a registered client owns the session, every other one is turned away, and neither what the
others send nor that they leave reaches the session.  `exclusive_ownership` says so for every
rehearsal that comes about, and that only the owner's own connection ends the ownership, or the end
of the endpoint.
-/

namespace LiveCamera

open Signaling

namespace Signaling.Registry

variable {r : Registry} {owner : String} {wire other : Nat}

theorem Consistent.eq_wire (h : r.Consistent) (hwire : r.wire? owner = some wire)
    (hother : r.client? other = some owner) : other = wire :=
  Option.some.inj (((h.client?_iff other owner).mp hother).symm.trans hwire)

theorem Consistent.request_eq_busy (h : r.Consistent) (howner : r.owner = some owner)
    {client : String} (hne : client ≠ owner) (wire : Nat) :
    r.request wire client =
      ([.send wire (Message.busy client).text, .publish (.viewerRejected client)], r) := by
  rcases r.request_cases wire client with ⟨_, -, -, -, hrequest⟩ | ⟨haccepted, -⟩
  · exact hrequest
  · obtain ⟨home, hhome⟩ := h.owner owner howner
    rcases haccepted owner howner with heq | hregistered
    · exact absurd heq.symm hne
    · simp [isRegistered, hhome] at hregistered

/-- Whoever registers on another connection than the owner's is not the owner. -/
theorem Consistent.of_enrolls (h : r.Consistent) (howner : r.owner = some owner)
    (hwire : r.wire? owner = some wire) (hne : other ≠ wire) {client : String}
    {enrolled : Registry} (henrolls : r.Enrolls other client enrolled) :
    enrolled.Consistent ∧ enrolled.owner = some owner ∧ client ≠ owner := by
  refine ⟨(h.enrolls henrolls).1, ?_, ?_⟩
  · rcases henrolls with ⟨-, rfl⟩ | ⟨-, -, rfl⟩ <;> exact howner
  · rintro rfl
    rcases henrolls with ⟨hclient, -⟩ | ⟨-, hfree, -⟩
    · exact hne (h.eq_wire hwire hclient)
    · exact hne (hfree wire hwire).symm

/-- What arrives on another connection than the owner's changes no owner and answers no offer. -/
theorem Consistent.receive_of_ne (h : r.Consistent) (howner : r.owner = some owner)
    (hwire : r.wire? owner = some wire) (hne : other ≠ wire) (text : String) :
    (r.receive other text).2.owner = some owner ∧
      ∀ sdp, Action.answer sdp ∉ (r.receive other text).1 := by
  rcases r.receive_cases other text with hreceive | ⟨_, _, -, -, hreceive⟩ |
    ⟨m, client, enrolled, -, henrolls, hreceive⟩ <;> rw [hreceive]
  · exact ⟨howner, by simp⟩
  · exact ⟨howner, by simp⟩
  · obtain ⟨hconsistent, henrolled, hclient⟩ := h.of_enrolls howner hwire hne henrolls
    rcases enrolled.handle_cases other client m with ⟨-, hhandle⟩ | ⟨-, hhandle⟩ |
      ⟨_, hhandle, hanswer⟩ <;> rw [hhandle]
    · rw [hconsistent.request_eq_busy henrolled hclient]
      exact ⟨henrolled, by simp⟩
    · have hignored : enrolled.answer client m = [] := by
        simp [answer, henrolled, Ne.symm hclient]
      exact ⟨henrolled, by simp [hignored]⟩
    · exact ⟨henrolled, hanswer⟩

/-- The owner keeps the session whatever it sends. -/
theorem owner_receive_of_client? (howner : r.owner = some owner)
    (hwire : r.client? wire = some owner) (text : String) :
    (r.receive wire text).2.owner = some owner := by
  cases hm : Message.ofText text with
  | error cause => rwa [receive_of_error hm]
  | ok m =>
    rw [receive_of_client? hwire hm]
    rcases r.handle_cases wire owner m with ⟨-, hhandle⟩ | ⟨-, hhandle⟩ | ⟨_, hhandle, -⟩ <;>
      rw [hhandle]
    · rcases r.request_cases wire owner with ⟨_, -, -, -, hrequest⟩ | ⟨-, hrequest⟩ <;>
        rw [hrequest]
      exact howner
    · exact howner
    · exact howner

/-- The owner leaves with the session. -/
theorem disconnect_of_owner (howner : r.owner = some owner) (hwire : r.client? wire = some owner) :
    (r.disconnect wire).1 = [.publish (.viewerDisconnected owner), .viewerLeft owner] ∧
      (r.disconnect wire).2.owner = none := by
  rw [disconnect_of_some hwire]
  simp [howner]

/-- Another connection closes without the session. -/
theorem Consistent.disconnect_of_ne (h : r.Consistent) (howner : r.owner = some owner)
    (hwire : r.wire? owner = some wire) (hne : other ≠ wire) :
    (r.disconnect other).2.owner = some owner ∧
      ∀ client, Action.viewerLeft client ∉ (r.disconnect other).1 := by
  cases hother : r.client? other with
  | none =>
    rw [disconnect_of_none hother]
    exact ⟨howner, by simp⟩
  | some client =>
    have hclient : owner ≠ client := by
      rintro rfl
      exact hne (h.eq_wire hwire hother)
    rw [disconnect_of_some hother]
    simp [howner, hclient]

/-- Only that its own connection closes takes the session from the owner. -/
theorem Consistent.owner_dispatch_ne_iff (h : r.Consistent) (howner : r.owner = some owner)
    (hwire : r.wire? owner = some wire) (event : WireEvent) :
    (r.dispatch event).2.owner ≠ some owner ↔ event = .disconnected wire := by
  have hclient := (h.client?_iff wire owner).mpr hwire
  cases event with
  | connected other path =>
    have hkept : (r.connect other path).owner = some owner := howner
    simp [dispatch, hkept]
  | message other text =>
    -- The owner may send what it likes, and nobody else can register in its place.
    have hkept : (r.receive other text).2.owner = some owner := by
      by_cases hother : other = wire
      · exact owner_receive_of_client? howner (hother ▸ hclient) text
      · exact (h.receive_of_ne howner hwire hother text).1
    simp [dispatch, hkept]
  | disconnected other =>
    by_cases hother : other = wire
    · subst hother
      simp [dispatch, (disconnect_of_owner howner hclient).2]
    · simp [dispatch, (h.disconnect_of_ne howner hwire hother).1, hother]

end Signaling.Registry

namespace Rehearsal

variable {x : Rehearsal} {opened : List Nat}

/-- While a client owns the session it is registered.  Any other registered client that requests the
stream is told on its own connection that the device is busy, and nothing else comes of it; what
arrives on other connections is never handed to the session as an answer, and that one of them
closes is no reason to reset it.  The ownership ends when the owner's connection closes, which is
reported as the departure of the owner once, or when the endpoint stops, and in no other way. -/
theorem exclusive_ownership (hx : Reachable opened x) {owner : String}
    (howner : x.registry.owner = some owner) :
    ∃ wire, x.registry.wire? owner = some wire ∧ x.registry.client? wire = some owner ∧
      (∀ other client text m, x.registry.client? other = some client → client ≠ owner →
        Message.ofText text = .ok m → m.type = "request" →
        x.take (.dispatch (.message other text)) =
          { x with
            outbox := x.outbox ++ [(other, (Message.busy client).text)]
            session := x.session.publish (.viewerRejected client) }) ∧
      (∀ other text sdp, other ≠ wire →
        Action.answer sdp ∉ (x.registry.dispatch (.message other text)).1) ∧
      (∀ other client, other ≠ wire →
        Action.viewerLeft client ∉ (x.registry.dispatch (.disconnected other)).1) ∧
      (x.registry.dispatch (.disconnected wire)).1 =
        [.publish (.viewerDisconnected owner), .viewerLeft owner] ∧
      ∀ turn, (x.take turn).registry.owner ≠ some owner ↔
        turn = .dispatch (.disconnected wire) ∨ turn = .stop := by
  have hregistry := hx.registry.consistent
  obtain ⟨wire, hwire⟩ := hregistry.owner owner howner
  have hclient := (hregistry.client?_iff wire owner).mpr hwire
  refine ⟨wire, hwire, hclient, ?_, ?_, ?_, (Registry.disconnect_of_owner howner hclient).1, ?_⟩
  · intro other client text m hother hne hm hrequest
    have hbusy : x.registry.receive other text =
        ([.send other (Message.busy client).text, .publish (.viewerRejected client)],
          x.registry) := by
      rw [Registry.receive_of_client? hother hm, Registry.handle_of_request hrequest]
      exact hregistry.request_eq_busy howner hne other
    simp only [take, Registry.dispatch, hbusy]
    rfl
  · intro other text sdp hother
    exact (hregistry.receive_of_ne howner hwire hother text).2 sdp
  · intro other client hother
    exact (hregistry.disconnect_of_ne howner hwire hother).2 client
  · intro turn
    rw [registry_take]
    cases turn with
    | dispatch event => simpa using hregistry.owner_dispatch_ne_iff howner hwire event
    | stop => simp [Registry.empty]
    | _ => simp [howner]

/-- Two viewers that are named by their paths request the stream; the first one gets it. -/
theorem exclusive_ownership_two_viewers :
    let x := ((new .working ⟨.h264, [], false, 100⟩ .initial true).withSession
      ((Session.new ⟨.h264, [], false, 100⟩ []).run [])).takeAll
        [.dispatch (.connected 1 (some "c1")), .dispatch (.message 1 requestText),
          .dispatch (.connected 2 (some "c2")), .dispatch (.message 2 requestText)]
    x.registry.owner = some "c1" ∧ x.registry.client? 2 = some "c2" ∧
      (x.take (.dispatch (.message 2 requestText))).outbox =
        x.outbox ++ [(2, (Message.busy "c2").text)] ∧
      (x.take (.dispatch (.disconnected 1))).registry.owner ≠ some "c1" := by
  intro x
  have hregistry : x.registry =
      ⟨[⟨1, some "c1", some "c1"⟩, ⟨2, some "c2", some "c2"⟩], [("c1", 1), ("c2", 2)],
        some "c1"⟩ := by
    simp only [x, takeAll, List.foldl, registry_take, Registry.dispatch, Registry.receive,
      ofText_requestText]
    rfl
  obtain ⟨opened, hx⟩ : ∃ opened, Reachable opened x :=
    (Reachable.start .working ⟨.h264, [], false, 100⟩ [] [] .initial true).takeAll _ (by decide)
  clear_value x
  have howner : x.registry.owner = some "c1" := by rw [hregistry]
  have hclient : x.registry.client? 2 = some "c2" := by rw [hregistry]; rfl
  obtain ⟨wire, hwire, -, hbusy, -, -, -, hends⟩ := exclusive_ownership hx howner
  have hfirst : wire = 1 := by
    rw [hregistry] at hwire
    exact (Option.some.inj hwire).symm
  refine ⟨howner, hclient, ?_, (hends _).mpr (.inl (by rw [hfirst]))⟩
  rw [hbusy 2 "c2" requestText _ hclient (by decide) ofText_requestText rfl]

end Rehearsal

end LiveCamera
