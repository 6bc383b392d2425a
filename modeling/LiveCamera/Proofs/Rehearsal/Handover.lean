import LiveCamera.Proofs.Rehearsal.Ownership
import LiveCamera.Proofs.Rehearsal.Rebuilding

/-!
# From one viewer to the next

When the viewer that owns the session leaves, the session is free at once, but the reset that is to
give the next viewer a connection of its own goes on by itself.  `offered_after_departure` says what
the next viewers are offered, whatever the order of the turns: from the moment at which a reset has
begun the connection is a later one than the one that was left, and until then it is still the same.
A viewer that is quicker than the reset is therefore offered what was just left
(`not_always_offered_later`).
-/

namespace LiveCamera

open Signaling

namespace Session

variable {s t : Session} {generation : Nat}

/-- The connections up to a generation are out of the session for good. -/
structure Outgrown (generation : Nat) (s : Session) : Prop where
  le : generation ≤ s.generation
  live : s.liveGeneration = 0 ∨ generation < s.liveGeneration

theorem Outgrown.of_keeps (h : s.Outgrown generation) (hkeeps : s.Keeps t) :
    t.Outgrown generation where
  le := hkeeps.generation ▸ h.le
  live := hkeeps.liveGeneration ▸ h.live

/-- A closed session has no connection that could be offered. -/
theorem Coherent.outgrown (h : s.Coherent) (hcurrent : s.current = none)
    (hle : generation ≤ s.generation) : s.Outgrown generation :=
  ⟨hle, .inl (h.vacant hcurrent).1⟩

theorem Coherent.outgrown_giveUp (h : s.Coherent) (hle : generation ≤ s.generation)
    (answer : Except Failure Unit) : (s.giveUp answer).Outgrown generation :=
  (h.giveUp answer).outgrown (s.current_giveUp answer) ((s.generation_giveUp answer).symm ▸ hle)

/-- A connection that is built is of a later generation. -/
theorem Coherent.outgrown_rebuild (h : s.Coherent) (hcurrent : s.current = none)
    (hle : generation ≤ s.generation) (answers : TransportAnswers) :
    (s.rebuild answers).2.Outgrown generation := by
  have hbuild : (s.build answers).2.Outgrown generation := by
    rcases s.build_cases answers with ⟨_, _, hbuild, -⟩ | ⟨_, hbuild, -⟩ <;> rw [hbuild]
    · exact ⟨Nat.le_succ_of_le hle, .inl (h.vacant hcurrent).1⟩
    · rw [setState_eq]
      exact ⟨Nat.le_succ_of_le hle, .inr (Nat.lt_succ_of_le hle)⟩
  rcases s.rebuild_cases answers with hrebuild | hrebuild <;> rw [hrebuild]
  · exact hbuild
  · exact hbuild.of_keeps (keeps_publish _ _)

theorem Coherent.liveGeneration_le (h : s.Coherent) : s.liveGeneration ≤ s.generation := by
  rcases Option.eq_none_or_eq_some s.current with hcurrent | ⟨place, hcurrent⟩
  · simp [(h.vacant hcurrent).1]
  · obtain ⟨c, hc, hserves⟩ := h.installed place hcurrent
    rw [← hserves.generation]
    exact (h.numbered place c hc).2

theorem Coherent.generation_of_connection? (h : s.Coherent) {c : Connection}
    (hc : s.connection? = some c) : 0 < c.generation ∧ c.generation = s.liveGeneration := by
  obtain ⟨place, hcurrent, hplace⟩ := Option.bind_eq_some_iff.mp hc
  obtain ⟨installed, hinstalled, hserves⟩ := h.installed place hcurrent
  obtain rfl : installed = c := Option.some.inj (hinstalled.symm.trans hplace)
  exact ⟨(h.numbered place installed hplace).1, hserves.generation⟩

end Session

namespace Rehearsal

variable {x : Rehearsal} {generation : Nat}

/-! ## Generations along the turns -/

theorem outgrown_finishReset (hcoherent : x.session.Coherent)
    (hcurrent : x.session.current = none) (hle : generation ≤ x.session.generation) :
    x.finishReset.session.Outgrown generation := by
  rw [session_finishReset]
  exact hcoherent.outgrown_rebuild hcurrent hle _

/-- Once a reset has begun the connection that was there is out. -/
theorem outgrown_beginReset (hcoherent : x.session.Coherent)
    (hle : generation ≤ x.session.generation) : x.beginReset.session.Outgrown generation := by
  rcases x.beginReset_cases with ⟨hshutdown, hbegin⟩ | ⟨-, hcurrent, hbegin⟩ | ⟨-, hbegin⟩ <;>
    rw [hbegin]
  · rw [session_release]
    exact hcoherent.outgrown (hcoherent.shutdown hshutdown) hle
  · exact outgrown_finishReset hcoherent hcurrent hle
  · rw [session_after]
    exact hcoherent.outgrown_giveUp hle _

theorem Orderly.outgrown_of_begins (h : x.Orderly) (hle : generation ≤ x.session.generation)
    {turn : Turn} (hbegins : x.Begins turn) : (x.take turn).session.Outgrown generation := by
  obtain ⟨y, hturn, hsession, -, -⟩ := h.exists_beginReset hbegins
  rw [hturn]
  exact outgrown_beginReset (hsession ▸ h.coherent) (hsession ▸ hle)

theorem Orderly.outgrown_of_ends (h : x.Orderly) (hle : generation ≤ x.session.generation)
    {turn : Turn} (hends : x.Ends turn) : (x.take turn).session.Outgrown generation := by
  obtain ⟨y, hturn, hsession, hcurrent, -⟩ := h.exists_finishReset hends
  rw [hturn]
  exact outgrown_finishReset (hsession ▸ h.coherent) hcurrent (hsession ▸ hle)

theorem Orderly.le_generation_take (h : x.Orderly) (hle : generation ≤ x.session.generation)
    (turn : Turn) : generation ≤ (x.take turn).session.generation := by
  by_cases hbegins : x.Begins turn
  · exact (h.outgrown_of_begins hle hbegins).le
  · by_cases hends : x.Ends turn
    · exact (h.outgrown_of_ends hle hends).le
    · rwa [(quiet_take hbegins hends).session.generation]

theorem Orderly.outgrown_take (h : x.Orderly) (houtgrown : x.session.Outgrown generation)
    (turn : Turn) : (x.take turn).session.Outgrown generation := by
  by_cases hbegins : x.Begins turn
  · exact h.outgrown_of_begins houtgrown.le hbegins
  · by_cases hends : x.Ends turn
    · exact h.outgrown_of_ends houtgrown.le hends
    · exact houtgrown.of_keeps (quiet_take hbegins hends).session

theorem Orderly.le_generation_takeAll (h : x.Orderly) (hle : generation ≤ x.session.generation)
    (turns : List Turn) : generation ≤ (x.takeAll turns).session.generation := by
  induction turns generalizing x with
  | nil => exact hle
  | cons turn turns ih => exact ih (h.take turn) (h.le_generation_take hle turn)

theorem Orderly.outgrown_takeAll (h : x.Orderly) (houtgrown : x.session.Outgrown generation)
    (turns : List Turn) : (x.takeAll turns).session.Outgrown generation := by
  induction turns generalizing x with
  | nil => exact houtgrown
  | cons turn turns ih => exact ih (h.take turn) (h.outgrown_take houtgrown turn)

/-- Whether a reset begins in the course of some turns. -/
def Resets (x : Rehearsal) (turns : List Turn) : Prop :=
  ∃ before turn rest, turns = before ++ turn :: rest ∧ (x.takeAll before).Begins turn

theorem resets_of_begins {turn : Turn} (h : x.Begins turn) (turns : List Turn) :
    x.Resets (turn :: turns) :=
  ⟨[], turn, turns, rfl, h⟩

theorem resets_cons {turn : Turn} {turns : List Turn} (h : (x.take turn).Resets turns) :
    x.Resets (turn :: turns) := by
  obtain ⟨before, other, rest, rfl, hother⟩ := h
  exact ⟨turn :: before, other, rest, rfl, hother⟩

theorem Orderly.outgrown_of_resets (h : x.Orderly) (hle : generation ≤ x.session.generation)
    {turns : List Turn} (hresets : x.Resets turns) :
    (x.takeAll turns).session.Outgrown generation := by
  obtain ⟨before, turn, rest, rfl, hbegins⟩ := hresets
  have hbefore := h.takeAll before
  have hturn := hbefore.outgrown_of_begins (h.le_generation_takeAll hle before) hbegins
  have hrest := (hbefore.take turn).outgrown_takeAll hturn rest
  simpa only [Rehearsal.takeAll, List.foldl_append, List.foldl_cons] using hrest

/-- As long as no reset begins, the connection that is there stays. -/
theorem Orderly.keeps_of_not_resets (h : x.Orderly) (hcurrent : x.session.current ≠ none)
    {turns : List Turn} (hresets : ¬x.Resets turns) :
    x.session.Keeps (x.takeAll turns).session := by
  induction turns generalizing x with
  | nil => exact .refl _
  | cons turn turns ih =>
    have hbegins : ¬x.Begins turn := fun hbegins ↦ hresets (resets_of_begins hbegins turns)
    -- A reset cannot end either: it would have given the connection up before.
    have hends : ¬x.Ends turn := by
      intro hends
      obtain ⟨y, -, hsession, hnone, -⟩ := h.exists_finishReset hends
      exact hcurrent (hsession ▸ hnone)
    have hkeeps := (quiet_take hbegins hends).session
    have hrest := ih (h.take turn) (hkeeps.current ▸ hcurrent) (hresets ∘ resets_cons)
    exact hkeeps.trans hrest

/-! ## Offers -/

theorem outbox_tryOffer_cases (x : Rehearsal) (wire : Nat) (client : String) (attempts : Nat) :
    (x.tryOffer wire client attempts).outbox = x.outbox ∨
      x.session.localDescription ≠ "" ∧ (x.tryOffer wire client attempts).outbox =
        x.outbox ++ [(wire, (Message.offer client x.session.localDescription).text)] := by
  cases attempts with
  | zero => exact .inl rfl
  | succ attempts =>
    simp only [tryOffer]
    split_ifs with hempty
    · exact .inl rfl
    · exact .inr ⟨by simpa using hempty, rfl⟩
    · exact .inl rfl
    · refine .inl ?_
      unfold after
      split_ifs <;> rfl

theorem exists_of_localDescription_ne {s : Session} (h : s.localDescription ≠ "") :
    ∃ c sdp, s.connection? = some c ∧ c.localDescription = some sdp ∧
      s.localDescription = Sdp.withoutIpv6 sdp := by
  unfold Session.localDescription at h ⊢
  cases hsdp : s.connection?.bind (·.localDescription) with
  | none => simp [hsdp] at h
  | some sdp =>
    obtain ⟨c, hc, hdescription⟩ := Option.bind_eq_some_iff.mp hsdp
    exact ⟨c, sdp, hc, hdescription, rfl⟩

/-- What is offered is the description of the connection that is installed. -/
theorem exists_offered {place wire attempts : Nat} {client : String}
    (hoffer : x.ready[place]? = some (.offer wire client attempts))
    (hsent : (x.take (.job place)).outbox ≠ x.outbox) :
    ∃ c sdp, x.session.connection? = some c ∧ c.localDescription = some sdp ∧
      (x.take (.job place)).outbox =
        x.outbox ++ [(wire, (Message.offer client (Sdp.withoutIpv6 sdp)).text)] := by
  rw [take_job hoffer] at hsent ⊢
  rcases (x.without place).outbox_tryOffer_cases wire client attempts with hsame | ⟨hne, hoffered⟩
  · exact absurd hsame hsent
  · obtain ⟨c, sdp, hc, hdescription, hlocal⟩ := exists_of_localDescription_ne hne
    exact ⟨c, sdp, hc, hdescription, hlocal ▸ hoffered⟩

/-- The owner's connection closes: nobody owns the session then, and a reset is to follow. -/
theorem take_departure {owner : String} {wire : Nat} (howner : x.registry.owner = some owner)
    (hclient : x.registry.client? wire = some owner) :
    (x.take (.dispatch (.disconnected wire))).registry.owner = none ∧
      x.take (.dispatch (.disconnected wire)) = { x with
        registry := (x.registry.disconnect wire).2
        session := x.session.publish (.viewerDisconnected owner)
        departed := x.departed ++ [owner]
        ready := if x.resetsForNextViewer then x.ready ++ [.reset] else x.ready } := by
  obtain ⟨hactions, hfree⟩ := Registry.disconnect_of_owner howner hclient
  refine ⟨by rw [registry_take]; exact hfree, ?_⟩
  simp only [take, Registry.dispatch, hactions]
  rfl

/-- The viewer that owns the session leaves.  The session is free at once and a reset is to follow.
Whoever is sent an offer after that, in any order of what happens, is sent the description of the
connection that is then installed.  Once a reset has begun this is a later connection than the one
that was left; until then it is the connection that was left. -/
theorem offered_after_departure {opened : List Nat} (hx : Reachable opened x)
    (hresets : x.resetsForNextViewer = true) {owner : String} {wire : Nat}
    (howner : x.registry.owner = some owner) (hclient : x.registry.client? wire = some owner) :
    let left := x.take (.dispatch (.disconnected wire))
    left.registry.owner = none ∧ left.departed = x.departed ++ [owner] ∧
      left.ready = x.ready ++ [.reset] ∧
      ∀ turns place target client attempts,
        let later := left.takeAll turns
        later.ready[place]? = some (.offer target client attempts) →
        (later.take (.job place)).outbox ≠ later.outbox →
        ∃ c sdp, later.session.connection? = some c ∧ c.localDescription = some sdp ∧
          (later.take (.job place)).outbox =
            later.outbox ++ [(target, (Message.offer client (Sdp.withoutIpv6 sdp)).text)] ∧
          (left.Resets turns → ∀ installed ∈ x.session.connection?,
            installed.generation < c.generation) ∧
          (¬left.Resets turns → ∀ installed ∈ x.session.connection?,
            c.generation = installed.generation) := by
  intro left
  obtain ⟨hfree, hleft⟩ := take_departure howner hclient
  have horderly : left.Orderly := hx.orderly.take _
  have hkeeps : x.session.Keeps left.session := by
    rw [show left.session = x.session.publish (.viewerDisconnected owner) by simp only [left, hleft]]
    exact x.session.keeps_publish _
  refine ⟨hfree, by simp only [left, hleft], by simp only [left, hleft, hresets, if_true], ?_⟩
  intro turns place target client attempts later hoffer hsent
  obtain ⟨c, sdp, hc, hdescription, houtbox⟩ := exists_offered hoffer hsent
  have hlater := (horderly.takeAll turns).coherent.generation_of_connection? hc
  refine ⟨c, sdp, hc, hdescription, houtbox, ?_, ?_⟩
  -- After a reset has begun every live connection is later than those of that moment.
  · intro hbegun installed hinstalled
    have hold := hx.orderly.coherent.generation_of_connection? hinstalled
    have hle : installed.generation ≤ left.session.generation := by
      rw [hkeeps.generation, hold.2]
      exact hx.orderly.coherent.liveGeneration_le
    rcases (horderly.outgrown_of_resets hle hbegun).live with hnone | hlt
    · omega
    · exact hlater.2 ▸ hlt
  -- Before that nothing takes the connection away.
  · intro hnot installed hinstalled
    have hold := hx.orderly.coherent.generation_of_connection? hinstalled
    have hcurrent : left.session.current ≠ none := by
      rw [hkeeps.current]
      intro hnone
      simp [Session.connection?, hnone] at hinstalled
    rw [hlater.2, hold.2, ← hkeeps.liveGeneration]
    exact (horderly.keeps_of_not_resets hcurrent hnot).liveGeneration

/-! ## A quick viewer -/

/-- The first of two viewers owns the session and has its offer. -/
def twoViewers : Rehearsal :=
  ((new { TransportScript.working with offer := "v=0" } ⟨.h264, [], false, 100⟩ ⟨3, 10⟩
      true).withSession
    ((Session.new ⟨.h264, [], false, 100⟩ []).run [.establish (.working (some "v=0"))])).takeAll
    [.dispatch (.connected 1 (some "c1")), .dispatch (.message 1 requestText), .job 0,
      .dispatch (.connected 2 (some "c2"))]

theorem reachable_twoViewers : ∃ opened, Reachable opened twoViewers :=
  (Reachable.start _ _ _ _ _ _).takeAll _ (by decide)

theorem owner_twoViewers : twoViewers.registry.owner = some "c1" ∧
    twoViewers.registry.client? 1 = some "c1" ∧ twoViewers.resetsForNextViewer = true := by
  simp only [twoViewers, takeAll, List.foldl, take, Registry.dispatch, Registry.receive,
    ofText_requestText]
  exact ⟨rfl, rfl, rfl⟩

theorem installed_twoViewers :
    ∃ c, twoViewers.session.connection? = some c ∧ c.generation = 1 := by
  simp only [twoViewers, takeAll, List.foldl, take, Registry.dispatch, Registry.receive,
    ofText_requestText]
  exact ⟨_, rfl, rfl⟩

/-- The second viewer requests the stream before the reset begins that the first one has left. -/
theorem quick_twoViewers :
    let later := (twoViewers.take (.dispatch (.disconnected 1))).takeAll
      [.dispatch (.message 2 requestText)]
    later.ready = [.reset, .offer 2 "c2" 3] ∧
      later.session.connections.map (·.generation) = [1] ∧
      (later.take (.job 1)).outbox.length = later.outbox.length + 1 := by
  simp only [twoViewers, takeAll, List.foldl, take, Registry.dispatch, Registry.receive,
    ofText_requestText]
  exact ⟨rfl, rfl, rfl⟩

/-- It is not so that whoever requests the stream after the owner has left is offered a later
connection than the owner's: the offer may be sent before the reset begins. -/
theorem not_always_offered_later :
    ¬∀ (opened : List Nat) (x : Rehearsal) (owner : String) (wire : Nat), Reachable opened x →
      x.resetsForNextViewer = true → x.registry.owner = some owner →
      x.registry.client? wire = some owner →
      ∀ turns place target client attempts,
        let later := (x.take (.dispatch (.disconnected wire))).takeAll turns
        later.ready[place]? = some (.offer target client attempts) → client ≠ owner →
        (later.take (.job place)).outbox ≠ later.outbox →
        ∃ c ∈ later.session.connections, ∃ sdp, c.localDescription = some sdp ∧
          (later.take (.job place)).outbox =
            later.outbox ++ [(target, (Message.offer client (Sdp.withoutIpv6 sdp)).text)] ∧
          ∀ installed ∈ x.session.connection?, installed.generation < c.generation := by
  intro hlater
  obtain ⟨opened, hx⟩ := reachable_twoViewers
  obtain ⟨howner, hclient, hresets⟩ := owner_twoViewers
  obtain ⟨installed, hinstalled, hfirst⟩ := installed_twoViewers
  obtain ⟨hready, hgenerations, hsent⟩ := quick_twoViewers
  obtain ⟨c, hc, -, -, -, hgreater⟩ := hlater opened twoViewers "c1" 1 hx hresets howner hclient
    [.dispatch (.message 2 requestText)] 1 2 "c2" 3 (by rw [hready]; rfl) (by decide)
    (fun hnone ↦ by simp [hnone] at hsent)
  have hlt := hgreater installed hinstalled
  have hmem := List.mem_map_of_mem (f := (·.generation)) hc
  rw [hgenerations, List.mem_singleton] at hmem
  omega

/-- The second viewer requests the stream after the reset is done. -/
theorem patient_twoViewers :
    let left := twoViewers.take (.dispatch (.disconnected 1))
    let later := left.takeAll [.job 0, .wake 100, .job 0, .dispatch (.message 2 requestText)]
    left.ready = [.reset] ∧ left.rebuilding = false ∧ later.ready = [.offer 2 "c2" 3] ∧
      (later.take (.job 0)).outbox.length = later.outbox.length + 1 := by
  simp only [twoViewers, takeAll, List.foldl, take, Registry.dispatch, Registry.receive,
    ofText_requestText]
  exact ⟨rfl, rfl, rfl, rfl⟩

/-- A viewer that is not so quick is offered the next connection. -/
theorem offered_after_departure_patient :
    ∃ c, ((twoViewers.take (.dispatch (.disconnected 1))).takeAll
        [.job 0, .wake 100, .job 0, .dispatch (.message 2 requestText)]).session.connection? =
      some c ∧ 1 < c.generation := by
  obtain ⟨opened, hx⟩ := reachable_twoViewers
  obtain ⟨howner, hclient, hresets⟩ := owner_twoViewers
  obtain ⟨installed, hinstalled, hfirst⟩ := installed_twoViewers
  obtain ⟨hqueued, hfree, hready, hsent⟩ := patient_twoViewers
  obtain ⟨-, -, -, hoffered⟩ := offered_after_departure hx hresets howner hclient
  obtain ⟨c, -, hc, -, -, hbegun, -⟩ := hoffered
    [.job 0, .wake 100, .job 0, .dispatch (.message 2 requestText)] 0 2 "c2" 3
    (by rw [hready]; rfl) fun hnone ↦ by simp [hnone] at hsent
  have hreset : (twoViewers.take (.dispatch (.disconnected 1))).Begins (.job 0) :=
    ⟨0, .reset, rfl, by rw [hqueued]; rfl, .inr ⟨rfl, hfree⟩⟩
  have hlater := hbegun (resets_of_begins hreset _) installed hinstalled
  rw [hfirst] at hlater
  exact ⟨c, hc, hlater⟩

end Rehearsal

end LiveCamera
