import LiveCamera.Proofs.Signaling.Registration
import Mathlib.Data.List.Induction

/-!
# The registry over a history of events

A history lists what happened on the wire.  Connections have numbers of their own: each one is
opened once, and nothing happens on it before.  Everything else is left open, from the order in
which the connections take turns to the texts that arrive on them.

`after` is the registry at the end of a history, and `registrations_bijective` says what is in it:
clients and connections name each other one to one, a connection keeps the name it once got, and
nothing is left when all connections are closed.
-/

namespace LiveCamera.Signaling

/-- Whether an event may come next: only a new connection is opened, and everything else happens on
a connection that was opened before. -/
@[simp]
def WireEvent.MayFollow (events : List WireEvent) : WireEvent → Prop
  | .connected wire _ => ∀ path, .connected wire path ∉ events
  | .message wire _ => ∃ path, .connected wire path ∈ events
  | .disconnected wire => ∃ path, .connected wire path ∈ events

/-- What happened on the wire, the oldest event first. -/
inductive History : List WireEvent → Prop
  | empty : History []
  | next {events : List WireEvent} {event : WireEvent} (h : History events)
      (hevent : event.MayFollow events) : History (events ++ [event])

namespace History

variable {events later : List WireEvent} {event : WireEvent} {wire : Nat}

theorem concat_iff : History (events ++ [event]) ↔ History events ∧ event.MayFollow events := by
  constructor
  · intro h
    generalize hall : events ++ [event] = all at h
    cases h with
    | empty => simp at hall
    | next h hevent =>
      obtain ⟨rfl, hlast⟩ := List.append_inj' hall rfl
      obtain rfl := List.singleton_inj.mp hlast
      exact ⟨h, hevent⟩
  · rintro ⟨h, hevent⟩
    exact .next h hevent

theorem of_append (h : History (events ++ later)) : History events := by
  induction later using List.reverseRecOn with
  | nil => rwa [List.append_nil] at h
  | append_singleton later event ih =>
    rw [← List.append_assoc] at h
    exact ih (concat_iff.mp h).1

/-- Nothing happens on a connection that was never opened. -/
theorem disconnected_notMem (h : History events) (hwire : ∀ path, .connected wire path ∉ events) :
    .disconnected wire ∉ events := by
  induction h with
  | empty => exact List.not_mem_nil
  | @next events event _ hevent ih =>
    have hearlier : ∀ path, .connected wire path ∉ events := fun path hpath ↦
      hwire path (List.mem_append_left _ hpath)
    intro hmem
    rcases List.mem_append.mp hmem with hmem | hmem
    · exact ih hearlier hmem
    · obtain rfl := List.mem_singleton.mp hmem
      obtain ⟨path, hpath⟩ := hevent
      exact hearlier path hpath

end History

namespace Registry

variable {r : Registry} {wire other : Nat} {client : String} {events later : List WireEvent}

/-- The registry at the end of a history. -/
def after (events : List WireEvent) : Registry :=
  events.foldl (fun r event ↦ (r.dispatch event).2) empty

@[simp]
theorem after_nil : after [] = empty := rfl

@[simp]
theorem after_concat (events : List WireEvent) (event : WireEvent) :
    after (events ++ [event]) = ((after events).dispatch event).2 := by
  simp [after]

/-- Every history leads to a registry that comes about by opening no connection twice. -/
theorem exists_reachable_after (h : History events) : ∃ opened, Reachable opened (after events) ∧
    ∀ wire ∈ opened, ∃ path, .connected wire path ∈ events := by
  induction h with
  | empty => exact ⟨[], .empty, by simp⟩
  | @next events event _ hevent ih =>
    obtain ⟨opened, hreachable, hopened⟩ := ih
    have hmore : ∀ wire ∈ opened, ∃ path, .connected wire path ∈ events ++ [event] := by
      intro wire hwire
      obtain ⟨path, hpath⟩ := hopened wire hwire
      exact ⟨path, List.mem_append_left _ hpath⟩
    rw [after_concat]
    cases event with
    | connected wire path =>
      have hnew : wire ∉ opened := by
        intro hwire
        obtain ⟨earlier, hearlier⟩ := hopened wire hwire
        exact hevent earlier hearlier
      refine ⟨wire :: opened, .connected hreachable hnew path, ?_⟩
      intro other hother
      rcases List.mem_cons.mp hother with rfl | hother
      · exact ⟨path, List.mem_append_right _ (List.mem_singleton_self _)⟩
      · exact hmore other hother
    | message wire text => exact ⟨opened, .message hreachable wire text, hmore⟩
    | disconnected wire => exact ⟨opened, .disconnected hreachable wire, hmore⟩

theorem consistent_after (h : History events) : (after events).Consistent := by
  obtain ⟨_, hreachable, -⟩ := exists_reachable_after h
  exact hreachable.consistent

/-! ## Which connections are open -/

/-- The name that the path of an open connection gives it, if it gives one. -/
def path? (r : Registry) (wire : Nat) : Option (Option String) :=
  (r.registration? wire).map (·.path)

theorem path?_eq_none_iff : r.path? wire = none ↔ r.registration? wire = none :=
  Option.map_eq_none_iff

theorem path?_connect (r : Registry) (wire : Nat) (path : Option String) (other : Nat) :
    (r.connect wire path).path? other =
      if other = wire then some (path.filter (!·.isEmpty)) else r.path? other := by
  rw [path?, registration?_connect]
  split_ifs <;> rfl

theorem path?_enlist (r : Registry) (wire : Nat) (client : String) (other : Nat) :
    (r.enlist wire client).path? other = r.path? other := by
  rw [path?, registration?_enlist, Option.map_map, path?]
  refine congrArg (Option.map · _) (funext fun c ↦ ?_)
  simp only [Function.comp_apply]
  split_ifs <;> rfl

/-- No text opens or closes a connection. -/
theorem path?_receive (r : Registry) (wire : Nat) (text : String) (other : Nat) :
    (r.receive wire text).2.path? other = r.path? other := by
  rcases r.receive_cases wire text with hreceive | ⟨_, _, -, -, hreceive⟩ |
    ⟨m, client, enrolled, -, henrolls, hreceive⟩ <;> rw [hreceive]
  rw [path?, registration?_handle, ← path?]
  rcases henrolls with ⟨-, rfl⟩ | ⟨-, -, rfl⟩
  · rfl
  · exact path?_enlist r wire client other

theorem path?_disconnect (r : Registry) (wire other : Nat) :
    (r.disconnect wire).2.path? other = if other = wire then none else r.path? other := by
  have hdrop : (r.dropWire wire).path? other = if other = wire then none else r.path? other := by
    rw [path?, registration?_dropWire]
    split_ifs <;> rfl
  cases hwire : r.client? wire with
  | none => rw [disconnect_of_none hwire, hdrop]
  | some client =>
    rw [disconnect_of_some hwire]
    exact hdrop

/-- The open connections are those that were opened and not closed since, with the names that their
paths gave them. -/
theorem path?_after_iff (h : History events) (wire : Nat) (name : Option String) :
    (after events).path? wire = some name ↔
      ∃ path, .connected wire path ∈ events ∧ .disconnected wire ∉ events ∧
        path.filter (!·.isEmpty) = name := by
  induction h with
  | empty => simp [path?, registration?, empty]
  | @next events event h hevent ih =>
    rw [after_concat]
    cases event with
    | connected opened given =>
      simp only [dispatch, path?_connect]
      by_cases hwire : wire = opened
      -- This is the only time that the connection is opened.
      · subst hwire
        have hclosed := h.disconnected_notMem hevent
        have honce : ∀ path, .connected wire path ∈ events → path.filter (!·.isEmpty) = name →
            given.filter (!·.isEmpty) = name := fun path hpath ↦ absurd hpath (hevent path)
        simpa [hclosed] using honce
      · simp [ih, hwire]
    | message sender text => simp [dispatch, path?_receive, ih]
    | disconnected closed =>
      simp only [dispatch, path?_disconnect]
      by_cases hwire : wire = closed <;> simp [ih, hwire]

theorem registration?_after_eq_none (h : History events) (hwire : .disconnected wire ∈ events) :
    (after events).registration? wire = none := by
  rw [← path?_eq_none_iff, Option.eq_none_iff_forall_ne_some]
  intro name hname
  obtain ⟨_, -, hopen, -⟩ := (path?_after_iff h wire name).mp hname
  exact hopen hwire

/-! ## Names -/

/-- The name under which a connection registers with its first message: the one in the message, else
the one in its path, else one made up from its number. -/
def nameFor (wire : Nat) (path : Option String) (m : Message) : String :=
  match m.id?, path.filter (!·.isEmpty) with
  | some id, _ => id
  | none, some id => id
  | none, none => "client_" ++ toString wire

theorem identify_eq_nameFor {registration : Registration} {path : Option String}
    (hwire : registration.wire = wire) (hpath : path.filter (!·.isEmpty) = registration.path)
    (m : Message) : identify registration m = nameFor wire path m := by
  rw [identify, nameFor, hpath, hwire]
  cases m.id? <;> cases registration.path <;> rfl

/-- What comes of a message on an open connection on which nobody is registered. -/
theorem receive_of_unregistered {registration : Registration}
    (hregistration : r.registration? wire = some registration) (hnone : registration.client = none)
    {text : String} {m : Message} (hm : Message.ofText text = .ok m) :
    (∃ other, r.wire? (identify registration m) = some other ∧ other ≠ wire ∧
        r.receive wire text =
          ([.send wire (Message.busy (identify registration m)).text,
            .publish (.viewerRejected (identify registration m))], r)) ∨
      (∀ other, r.wire? (identify registration m) = some other → other = wire) ∧
        r.receive wire text =
          (r.enlist wire (identify registration m)).handle wire (identify registration m) m := by
  have hwire : r.client? wire = none := by simp [client?, hregistration, hnone]
  rcases r.enroll_cases wire m with ⟨hclosed, -⟩ | ⟨_, hclient, -⟩ |
    ⟨found, hfound, -, ⟨other, hother, hne, henroll⟩ | ⟨hfree, henroll⟩⟩
  · rw [hregistration] at hclosed
    cases hclosed
  · rw [hwire] at hclient
    cases hclient
  · obtain rfl := Option.some.inj (hfound.symm.trans hregistration)
    refine .inl ⟨other, hother, hne, ?_⟩
    simp only [receive, hm, henroll]
  · obtain rfl := Option.some.inj (hfound.symm.trans hregistration)
    refine .inr ⟨hfree, ?_⟩
    simp only [receive, hm, henroll]

theorem client?_handle (r : Registry) (wire : Nat) (client : String) (m : Message) (other : Nat) :
    (r.handle wire client m).2.client? other = r.client? other := by
  rw [client?, registration?_handle, client?]

/-- Whoever is registered stays so, whatever arrives. -/
theorem client?_receive_of_some (h : r.client? wire = some client) (other : Nat) (text : String) :
    (r.receive other text).2.client? wire = some client := by
  rcases r.receive_cases other text with hreceive | ⟨_, _, -, -, hreceive⟩ |
    ⟨m, sender, enrolled, -, henrolls, hreceive⟩ <;> rw [hreceive]
  · exact h
  · exact h
  · rw [client?_handle]
    rcases henrolls with ⟨-, rfl⟩ | ⟨⟨registration, hregistration, hnone⟩, -, rfl⟩
    · exact h
    · have hother : r.client? other = none := by simp [client?, hregistration, hnone]
      have hne : wire ≠ other := by
        rintro rfl
        rw [h] at hother
        cases hother
      rw [client?_enlist hregistration, if_neg hne, h]

/-- A text on another connection registers nobody on this one. -/
theorem client?_receive_of_ne (hne : wire ≠ other) (text : String) :
    (r.receive other text).2.client? wire = r.client? wire := by
  rcases r.receive_cases other text with hreceive | ⟨_, _, -, -, hreceive⟩ |
    ⟨m, sender, enrolled, -, henrolls, hreceive⟩ <;> rw [hreceive]
  rw [client?_handle]
  rcases henrolls with ⟨-, rfl⟩ | ⟨⟨registration, hregistration, -⟩, -, rfl⟩
  · rfl
  · rw [client?_enlist hregistration, if_neg hne]

theorem client?_disconnect (r : Registry) (wire other : Nat) :
    (r.disconnect wire).2.client? other = if other = wire then none else r.client? other := by
  cases hwire : r.client? wire with
  | none => rw [disconnect_of_none hwire, client?_dropWire]
  | some client =>
    rw [disconnect_of_some hwire]
    exact client?_dropWire r wire other

/-- Only a message on the connection itself registers anybody on it. -/
theorem exists_of_client?_dispatch {event : WireEvent} (hnone : r.client? wire = none)
    (hclient : (r.dispatch event).2.client? wire = some client) :
    ∃ text m, event = .message wire text ∧ Message.ofText text = .ok m := by
  cases event with
  | connected opened path =>
    rw [dispatch, client?_connect, ite_eq_left_iff.mpr fun _ ↦ hnone] at hclient
    cases hclient
  | message sender text =>
    by_cases hsender : wire = sender
    · subst hsender
      cases hm : Message.ofText text with
      | error cause =>
        rw [dispatch, receive_of_error hm, hnone] at hclient
        cases hclient
      | ok m => exact ⟨text, m, rfl, hm⟩
    · rw [dispatch, client?_receive_of_ne hsender, hnone] at hclient
      cases hclient
  | disconnected closed =>
    rw [dispatch, client?_disconnect, hnone, ite_self] at hclient
    cases hclient

/-- The connection of a client stays its connection until it closes, and does not open again. -/
theorem client?_after_append (h : History (events ++ later))
    (hclient : (after events).client? wire = some client) :
    (after (events ++ later)).client? wire = some client ∨
      (after (events ++ later)).client? wire = none ∧ .disconnected wire ∈ events ++ later := by
  induction later using List.reverseRecOn with
  | nil =>
    rw [List.append_nil]
    exact .inl hclient
  | append_singleton later event ih =>
    rw [← List.append_assoc] at h ⊢
    obtain ⟨hearlier, hevent⟩ := History.concat_iff.mp h
    rw [after_concat]
    rcases ih hearlier with hkept | ⟨-, hclosed⟩
    · cases event with
      | connected opened path =>
        have hne : wire ≠ opened := by
          rintro rfl
          obtain ⟨registration, hregistration, -⟩ := Option.bind_eq_some_iff.mp hkept
          obtain ⟨earlier, hmem, -⟩ := (path?_after_iff hearlier wire registration.path).mp
            (by rw [path?, hregistration, Option.map_some])
          exact hevent earlier hmem
        rw [dispatch, client?_connect, if_neg hne]
        exact .inl hkept
      | message sender text => exact .inl (client?_receive_of_some hkept sender text)
      | disconnected closed =>
        rw [dispatch, client?_disconnect]
        split_ifs with hwire
        · exact .inr ⟨rfl, by simp [hwire]⟩
        · exact .inl hkept
    · have hmem : .disconnected wire ∈ (events ++ later) ++ [event] :=
        List.mem_append_left _ hclosed
      refine .inr ⟨?_, hmem⟩
      rw [← after_concat, client?, registration?_after_eq_none h hmem, Option.bind_none]

/-- Over a history: the first message on a connection registers it, unless its name belongs to
another connection. -/
theorem receive_first {path : Option String} {text : String} {m : Message} (h : History events)
    (hopened : .connected wire path ∈ events) (hopen : .disconnected wire ∉ events)
    (hnone : (after events).client? wire = none) (hm : Message.ofText text = .ok m) :
    (∃ other, (after events).wire? (nameFor wire path m) = some other ∧ other ≠ wire ∧
        (after events).receive wire text =
          ([.send wire (Message.busy (nameFor wire path m)).text,
            .publish (.viewerRejected (nameFor wire path m))], after events)) ∨
      (after events).wire? (nameFor wire path m) = none ∧
        ((after events).receive wire text).2.client? wire = some (nameFor wire path m) := by
  have hpath := (path?_after_iff h wire _).mpr ⟨path, hopened, hopen, rfl⟩
  obtain ⟨registration, hregistration, hname⟩ := Option.map_eq_some_iff.mp hpath
  have hclient : registration.client = none := by
    simpa [client?, hregistration] using hnone
  have hidentify := identify_eq_nameFor (wire_of_registration?_eq_some hregistration) hname.symm m
  have hcases := receive_of_unregistered hregistration hclient hm
  rw [hidentify] at hcases
  rcases hcases with hbusy | ⟨hfree, hreceive⟩
  · exact .inl hbusy
  · refine .inr ⟨?_, ?_⟩
    · rw [Option.eq_none_iff_forall_ne_some]
      intro other hother
      obtain rfl := hfree other hother
      rw [((consistent_after h).client?_iff _ _).mpr hother] at hnone
      cases hnone
    · rw [hreceive, client?_handle, client?_enlist hregistration, if_pos rfl]

/-- A registry without open connections has no clients and no owner either. -/
theorem Consistent.eq_empty (h : r.Consistent) (hclosed : ∀ wire, r.registration? wire = none) :
    r = empty := by
  have hclients : ∀ client, r.wire? client = none := by
    intro client
    rw [Option.eq_none_iff_forall_ne_some]
    intro wire hwire
    have hclient := (h.client?_iff wire client).mpr hwire
    rw [client?, hclosed wire, Option.bind_none] at hclient
    cases hclient
  obtain ⟨connections, clients, owner⟩ := r
  have hconnections : connections = [] := by
    rw [List.eq_nil_iff_forall_not_mem]
    intro registration hmem
    have hnone := List.find?_eq_none.mp (hclosed registration.wire) registration hmem
    simp at hnone
  have hnobody : clients = [] := by
    rw [List.eq_nil_iff_forall_not_mem]
    rintro ⟨client, wire⟩ hmem
    have hnone := List.lookup_eq_none_iff.mp (hclients client) (client, wire) hmem
    simp at hnone
  have howner : owner = none := by
    rw [Option.eq_none_iff_forall_ne_some]
    intro name hname
    obtain ⟨wire, hwire⟩ := h.owner name hname
    rw [hclients name] at hwire
    cases hwire
  rw [hconnections, hnobody, howner, empty]

/-- The registry after any history.

Clients and open connections name each other one to one, and the owner of the session is registered.
A connection on which somebody registered keeps that name for as long as it is open.  Only a message
on the connection itself gives it a name, which is the one in the message, else the one in its path,
else one made up from its number, unless another connection has that name: then the sender, and
nobody else, is told that the device is busy, and the registry stays as it is.  A text that is no
message has no effect at all.  When every connection was closed, nothing is left. -/
theorem registrations_bijective (h : History events) :
    (∀ wire client, (after events).client? wire = some client ↔
        (after events).wire? client = some wire) ∧
      (∀ owner, (after events).owner = some owner → (after events).isRegistered owner = true) ∧
      (∀ later wire client renamed, History (events ++ later) →
        (after events).client? wire = some client →
        (after (events ++ later)).client? wire = some renamed → renamed = client) ∧
      (∀ event wire client, History (events ++ [event]) → (after events).client? wire = none →
        (after (events ++ [event])).client? wire = some client →
        ∃ path text m, .connected wire path ∈ events ∧ event = .message wire text ∧
          Message.ofText text = .ok m ∧ client = nameFor wire path m) ∧
      (∀ wire path text m, .connected wire path ∈ events → .disconnected wire ∉ events →
        (after events).client? wire = none → Message.ofText text = .ok m →
        ((after events).wire? (nameFor wire path m) = none →
          ((after events).dispatch (.message wire text)).2.client? wire =
            some (nameFor wire path m)) ∧
        ∀ other, (after events).wire? (nameFor wire path m) = some other →
          other ≠ wire ∧ (after events).dispatch (.message wire text) =
            ([.send wire (Message.busy (nameFor wire path m)).text,
              .publish (.viewerRejected (nameFor wire path m))], after events)) ∧
      (∀ wire text cause, Message.ofText text = .error cause →
        (after events).dispatch (.message wire text) = ([], after events)) ∧
      ((∀ wire path, .connected wire path ∈ events → .disconnected wire ∈ events) →
        after events = empty) := by
  have hconsistent := consistent_after h
  refine ⟨hconsistent.client?_iff, ?_, ?_, ?_, ?_, ?_, ?_⟩
  · intro owner howner
    obtain ⟨wire, hwire⟩ := hconsistent.owner owner howner
    rw [isRegistered, hwire, Option.isSome_some]
  · intro later wire client renamed hall hclient hrenamed
    rcases client?_after_append hall hclient with hkept | ⟨hclosed, -⟩
    · exact Option.some.inj (hrenamed.symm.trans hkept)
    · rw [hclosed] at hrenamed
      cases hrenamed
  · intro event wire client hall hnone hclient
    rw [after_concat] at hclient
    obtain ⟨text, m, rfl, hm⟩ := exists_of_client?_dispatch hnone hclient
    obtain ⟨path, hopened⟩ := (History.concat_iff.mp hall).2
    have hopen : .disconnected wire ∉ events := by
      intro hclosed
      have hgone := registration?_after_eq_none h hclosed
      have hstill : ((after events).receive wire text).2.registration? wire = none :=
        registration?_receive_eq_none hgone wire text
      rw [dispatch, client?, hstill, Option.bind_none] at hclient
      cases hclient
    refine ⟨path, text, m, hopened, rfl, hm, ?_⟩
    rcases receive_first h hopened hopen hnone hm with ⟨_, -, -, hreceive⟩ | ⟨-, hnamed⟩
    · rw [dispatch, hreceive, hnone] at hclient
      cases hclient
    · exact Option.some.inj (hclient.symm.trans hnamed)
  · intro wire path text m hopened hopen hnone hm
    rcases receive_first h hopened hopen hnone hm with
      ⟨holder, hholder, hne, hreceive⟩ | ⟨hfree, hnamed⟩
    · refine ⟨fun hfree ↦ absurd (hholder.symm.trans hfree) (by simp), ?_⟩
      intro other hother
      obtain rfl := Option.some.inj (hholder.symm.trans hother)
      exact ⟨hne, hreceive⟩
    · refine ⟨fun _ ↦ hnamed, ?_⟩
      intro other hother
      rw [hfree] at hother
      cases hother
  · intro wire text cause hm
    exact receive_of_error hm _ wire
  · intro hall
    apply hconsistent.eq_empty
    intro wire
    rw [← path?_eq_none_iff, Option.eq_none_iff_forall_ne_some]
    intro name hname
    obtain ⟨path, hopened, hopen, -⟩ := (path?_after_iff h wire name).mp hname
    exact hopen (hall wire path hopened)

/-- The second of two connections with one name in their paths is turned away, and nobody is
registered any more when both are closed. -/
theorem registrations_bijective_one_name :
    let start := [.connected 1 (some "c1"), .message 1 requestText, .connected 2 (some "c1")]
    History start ∧ (after start).wire? "c1" = some 1 ∧ (after start).client? 1 = some "c1" ∧
      (after start).dispatch (.message 2 requestText) =
        ([.send 2 (Message.busy "c1").text, .publish (.viewerRejected "c1")], after start) ∧
      after (start ++ [.disconnected 2, .disconnected 1]) = empty := by
  intro start
  have hregistry : after start =
      ⟨[⟨1, some "c1", some "c1"⟩, ⟨2, none, some "c1"⟩], [("c1", 1)], some "c1"⟩ := by
    simp only [start, after, List.foldl, dispatch, receive, ofText_requestText]
    rfl
  have hstart : History start := by
    have hopened : History ([] ++ [.connected 1 (some "c1")]) := .next .empty (by simp)
    have hnamed : History ([.connected 1 (some "c1")] ++ [.message 1 requestText]) :=
      .next hopened ⟨some "c1", by simp⟩
    exact .next hnamed (show WireEvent.MayFollow _ (.connected 2 (some "c1")) by simp)
  have hends : History (start ++ [.disconnected 2, .disconnected 1]) := by
    have hsecond : History (start ++ [.disconnected 2]) := .next hstart ⟨some "c1", by simp [start]⟩
    exact .next hsecond (show WireEvent.MayFollow _ (.disconnected 1) from
      ⟨some "c1", by simp [start]⟩)
  have hwire : (after start).wire? "c1" = some 1 := by rw [hregistry]; rfl
  have hnobody : (after start).client? 2 = none := by rw [hregistry]; rfl
  obtain ⟨hiff, -, -, -, hfirst, -, -⟩ := registrations_bijective hstart
  obtain ⟨-, hbusy⟩ := hfirst 2 (some "c1") requestText _ (by simp [start]) (by simp [start])
    hnobody ofText_requestText
  obtain ⟨-, -, -, -, -, -, hempty⟩ := registrations_bijective hends
  refine ⟨hstart, hwire, (hiff 1 "c1").mpr hwire, (hbusy 1 hwire).2, hempty ?_⟩
  intro wire path hopened
  have hcases : wire = 1 ∧ path = some "c1" ∨ wire = 2 ∧ path = some "c1" := by
    simpa [start] using hopened
  rcases hcases with ⟨rfl, -⟩ | ⟨rfl, -⟩ <;> simp

end Registry

end LiveCamera.Signaling
