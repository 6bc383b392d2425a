import LiveCamera.Proofs.Rehearsal.Pursuits
import LiveCamera.Proofs.Signaling.History
import Mathlib.Data.List.Chain

/-!
# From a request to its offer

Whatever the order of the turns, a request that is granted comes to one offer or to none.  `Sound`
says how its pursuit goes: a look follows the one before after the pause that is set, as long as
nothing was found and an attempt is left, and what is found is sent at once.  Every turn keeps it,
so it holds of every request that is granted, up to any moment (`offered_on_request`).
-/

namespace LiveCamera

open Signaling

namespace Rehearsal

variable {x y : Rehearsal} {ledger : List Pursuit} {opened : List Nat}

/-! ## What becomes of a request -/

/-- A pursuit keeps to the attempts and the pauses that are set, sends what it finds as an offer,
and ends once it has found something or has no attempt left.  Until then its next look is due a
pause after the last one. -/
structure Sound (x : Rehearsal) (p : Pursuit) : Prop where
  bounded : p.looks.length ≤ p.attempts
  blank : ∀ look ∈ p.looks.dropLast, look.description = ""
  spaced : p.looks.IsChain fun look next ↦ look.time + x.retry.delay ≤ next.time
  sent : ∀ look ∈ p.looks, look.sent =
    if look.description = "" then []
    else [(p.wire, (Message.offer p.client look.description).text)]
  done_iff : p.wait = .done ↔
    p.looks.length = p.attempts ∨ ∃ look ∈ p.looks, look.description ≠ ""
  first : p.looks = [] → p.wait = .now
  due : ∀ last ∈ p.looks.getLast?, ∀ time, p.wait = .later time → time = last.time + x.retry.delay
  rested : ∀ last ∈ p.looks.getLast?, p.wait = .now → last.time + x.retry.delay ≤ x.clock

variable {p : Pursuit}

theorem sound_new (x : Rehearsal) (wire : Nat) (client : String) {attempts : Nat}
    (h : 0 < attempts) : x.Sound ⟨wire, client, attempts, [], .now⟩ where
  bounded := Nat.zero_le attempts
  blank := by simp
  spaced := .nil
  sent := by simp
  done_iff := by simp [h.ne]
  first := fun _ ↦ rfl
  due := by simp
  rested := by simp

theorem Sound.mono (h : x.Sound p) (hretry : y.retry = x.retry) (hclock : x.clock ≤ y.clock) :
    y.Sound p where
  bounded := h.bounded
  blank := h.blank
  spaced := hretry ▸ h.spaced
  sent := h.sent
  done_iff := h.done_iff
  first := h.first
  due := hretry ▸ h.due
  rested := fun last hlast hnow ↦ hretry ▸ (h.rested last hlast hnow).trans hclock

theorem wake_cases (p : Pursuit) (time : Nat) :
    p.wake time = p ∨
      ∃ due, p.wait = .later due ∧ due ≤ time ∧ p.wake time = { p with wait := .now } := by
  unfold Pursuit.wake
  obtain ⟨wire, client, attempts, looks, wait⟩ := p
  cases wait with
  | later due =>
    by_cases hdue : due ≤ time
    · exact .inr ⟨due, rfl, hdue, by simp only [if_pos hdue]⟩
    · exact .inl (by simp only [if_neg hdue])
  | _ => exact .inl rfl

theorem Sound.wake (h : x.Sound p) {time : Nat} (hclock : x.clock ≤ time) :
    (x.wake time).Sound (p.wake time) := by
  rcases wake_cases p time with hsame | ⟨due, hlater, hdue, hnow⟩
  · rw [hsame]
    exact h.mono rfl hclock
  · rw [hnow]
    exact
      { bounded := h.bounded
        blank := h.blank
        spaced := h.spaced
        sent := h.sent
        done_iff := by simpa [hlater] using h.done_iff
        first := fun _ ↦ rfl
        due := by simp
        rested := fun last hlast _ ↦ (h.due last hlast due hlater).symm.trans_le hdue }

/-- A device that has joined nowhere sends what it finds. -/
theorem outbox_tryOffer (hlink : x.link = none) (wire : Nat) (client : String) {attempts : Nat}
    (h : attempts ≠ 0) :
    (x.tryOffer wire client attempts).outbox = x.outbox ++
      if x.session.localDescription = "" then []
      else [(wire, (Message.offer client x.session.localDescription).text)] := by
  obtain ⟨left, rfl⟩ := Nat.exists_eq_succ_of_ne_zero h
  have hheard : x.isHeard = true := by rw [isHeard, hlink, Option.all_none]
  rw [tryOffer]
  by_cases hfound : x.session.localDescription = ""
  · by_cases hlast : left = 0
    · simp [hfound, hlast]
    · simp only [hfound, after]
      split_ifs <;> simp_all
  · simp [hfound, hheard]

/-- What is sent while the job of a pursuit runs that has an attempt left. -/
theorem drop_outbox_take (hlink : x.link = none) (hleft : p.looks.length < p.attempts) {place : Nat}
    (hjob : x.ready[place]? = some p.job) :
    (x.take (.job place)).outbox.drop x.outbox.length =
      if x.session.localDescription = "" then []
      else [(p.wire, (Message.offer p.client x.session.localDescription).text)] := by
  have houtbox := outbox_tryOffer (x := x.without place) hlink p.wire p.client
    (Nat.sub_ne_zero_of_lt hleft)
  rw [take_job hjob]
  exact (congrArg (List.drop x.outbox.length) houtbox).trans List.drop_left

theorem Sound.look (h : x.Sound p) (hlink : x.link = none) (hnow : p.wait = .now) {place : Nat}
    (hjob : x.ready[place]? = some p.job) :
    (x.take (.job place)).Sound (p.look x (x.take (.job place))) := by
  -- A pursuit that still looks has found nothing so far and has an attempt left.
  have hopen := mt h.done_iff.mpr (by simp [hnow])
  obtain ⟨hlength, hblank⟩ := not_or.mp hopen
  push Not at hblank
  have hleft : p.looks.length < p.attempts := lt_of_le_of_ne h.bounded hlength
  have hsteady : x.Steady (x.take (.job place)) := steady_take (by simp)
  have hlast : (p.look x (x.take (.job place))).looks.getLast? = some
      ⟨x.clock, x.session.localDescription,
        (x.take (.job place)).outbox.drop x.outbox.length⟩ := List.getLast?_concat
  have hfound : (∃ look ∈ (p.look x (x.take (.job place))).looks, look.description ≠ "") ↔
      x.session.localDescription ≠ "" := by
    simp only [Pursuit.looks_look, List.mem_append, List.mem_singleton, or_and_right, exists_or,
      exists_eq_left]
    refine or_iff_right ?_
    rintro ⟨look, hlook, hne⟩
    exact hne (hblank look hlook)
  have hcount : (p.look x (x.take (.job place))).looks.length = p.looks.length + 1 := by simp
  refine
    { bounded := hcount.trans_le hleft
      blank := by simpa using hblank
      spaced := ?_
      sent := ?_
      done_iff := ?_
      first := by simp
      due := ?_
      rested := ?_ }
  · rw [hsteady.retry]
    refine List.isChain_append.mpr ⟨h.spaced, .singleton _, ?_⟩
    intro last hlast next hnext
    obtain rfl := Option.some.inj hnext
    exact h.rested last hlast hnow
  · intro look hlook
    rcases List.mem_append.mp hlook with hlook | hlook
    · exact h.sent look hlook
    · obtain rfl := List.mem_singleton.mp hlook
      exact drop_outbox_take hlink hleft hjob
  · have hexhausted : p.attempts - p.looks.length ≤ 1 ↔ p.looks.length + 1 = p.attempts := by omega
    rw [Pursuit.wait_look_eq_done_iff, hfound, hcount, hexhausted, or_comm]
    rfl
  · intro last hfinal time htime
    obtain rfl := Option.some.inj (hlast.symm.trans hfinal)
    simp only [Pursuit.look] at htime
    split_ifs at htime
    rw [hsteady.retry, ← Wait.later.inj htime]
  · intro last hfinal htime
    obtain rfl := Option.some.inj (hlast.symm.trans hfinal)
    simp only [Pursuit.look] at htime
    split_ifs at htime with _ hdelay
    rw [hsteady.retry, hsteady.clock, hdelay, Nat.add_zero]

/-- Two entries that are about the same request. -/
def SameRequest (p q : Pursuit) : Prop :=
  q.wire = p.wire ∧ q.client = p.client ∧ q.attempts = p.attempts

/-- Entries stay in their places, and each one is sound after a turn if it was before. -/
theorem Sound.pursue (h : x.Sound p) (hlink : x.link = none) {place : Nat}
    (hp : ledger[place]? = some p) {turn : Turn} (hclock : x.clock ≤ (x.take turn).clock) :
    ∃ q, (x.pursue ledger turn)[place]? = some q ∧ (x.take turn).Sound q ∧ SameRequest p q := by
  have hsame : (x.take turn).Sound p := h.mono (x.retry_take turn) hclock
  cases turn with
  | dispatch event =>
    obtain ⟨hplace, -⟩ := List.getElem?_eq_some_iff.mp hp
    exact ⟨p, (List.getElem?_append_left hplace).trans hp, hsame, rfl, rfl, rfl⟩
  | job target =>
    rcases x.pursue_job_cases ledger target with ⟨-, hpursue⟩ |
      ⟨before, owner, rest, rfl, hnow, hjob, hpursue⟩ <;> rw [hpursue]
    · exact ⟨p, hp, hsame, rfl, rfl, rfl⟩
    · rcases lt_trichotomy place before.length with hlt | rfl | hgt
      · rw [List.getElem?_append_left hlt] at hp ⊢
        exact ⟨p, hp, hsame, rfl, rfl, rfl⟩
      · rw [List.getElem?_append_right le_rfl, Nat.sub_self] at hp ⊢
        obtain rfl := Option.some.inj hp
        exact ⟨_, rfl, h.look hlink hnow hjob, rfl, rfl, rfl⟩
      · obtain ⟨beyond, hbeyond⟩ := Nat.exists_eq_add_of_lt hgt
        have hindex : place - before.length = beyond + 1 := by omega
        rw [List.getElem?_append_right hgt.le, hindex, List.getElem?_cons_succ] at hp ⊢
        exact ⟨p, hp, hsame, rfl, rfl, rfl⟩
  | wake time =>
    refine ⟨p.wake time, ?_, h.wake hclock, rfl, rfl, rfl⟩
    rw [Rehearsal.pursue, List.getElem?_map, hp, Option.map_some]
  | _ => exact ⟨p, hp, hsame, rfl, rfl, rfl⟩

/-- Time does not run backwards in the course of some turns. -/
def Onward (x : Rehearsal) : List Turn → Prop
  | [] => True
  | turn :: turns => x.clock ≤ (x.take turn).clock ∧ (x.take turn).Onward turns

theorem Sound.pursueAll (h : x.Sound p) (hlink : x.link = none) {place : Nat}
    (hp : ledger[place]? = some p) {turns : List Turn} (honward : x.Onward turns) :
    ∃ q, (x.pursueAll ledger turns)[place]? = some q ∧ (x.takeAll turns).Sound q ∧
      SameRequest p q := by
  induction turns generalizing x ledger p with
  | nil => exact ⟨p, hp, h, rfl, rfl, rfl⟩
  | cons turn turns ih =>
    obtain ⟨q, hq, hsound, hwire, hclient, hattempts⟩ := h.pursue hlink hp honward.1
    obtain ⟨last, hlast, hfinal, hwire', hclient', hattempts'⟩ :=
      ih hsound ((x.link_take turn).trans hlink) hq honward.2
    exact ⟨last, hlast, hfinal, hwire'.trans hwire, hclient'.trans hclient,
      hattempts'.trans hattempts⟩

/-- A pursuit sends what its last look has found, if that found anything, and nothing else. -/
theorem Sound.sent_cases (h : x.Sound p) :
    (∀ look ∈ p.looks, look.description = "") ∧ p.sent = [] ∨
      ∃ last ∈ p.looks.getLast?, last.description ≠ "" ∧ p.wait = .done ∧
        p.sent = [(p.wire, (Message.offer p.client last.description).text)] := by
  have hsilent : ∀ looks : List Look, (∀ look ∈ looks, look ∈ p.looks) →
      (∀ look ∈ looks, look.description = "") → looks.flatMap (·.sent) = [] := by
    intro looks hlooks hblank
    refine List.flatMap_eq_nil_iff.mpr fun look hlook ↦ ?_
    rw [h.sent look (hlooks look hlook), if_pos (hblank look hlook)]
  by_cases hblank : ∀ look ∈ p.looks, look.description = ""
  · exact .inl ⟨hblank, hsilent p.looks (fun _ ↦ id) hblank⟩
  · push Not at hblank
    obtain ⟨found, hfound, hne⟩ := hblank
    rcases p.looks.eq_nil_or_concat with hnil | ⟨others, last, hlooks⟩
    · rw [hnil] at hfound
      cases hfound
    -- Of the looks only the last one can have found something.
    · rw [List.concat_eq_append] at hlooks
      have hothers : ∀ look ∈ others, look.description = "" := by
        have hblank := h.blank
        rwa [hlooks, List.dropLast_concat] at hblank
      obtain rfl : found = last := by
        rw [hlooks] at hfound
        rcases List.mem_append.mp hfound with hother | hlast
        · exact absurd (hothers found hother) hne
        · exact List.mem_singleton.mp hlast
      refine .inr ⟨found, by rw [hlooks]; exact List.getLast?_concat, hne,
        h.done_iff.mpr (.inr ⟨found, hfound, hne⟩), ?_⟩
      rw [Pursuit.sent, hlooks, List.flatMap_append, hsilent others ?_ hothers, List.nil_append,
        List.flatMap_singleton, h.sent found hfound, if_neg hne]
      intro look hlook
      rw [hlooks]
      exact List.mem_append_left _ hlook

end Rehearsal

namespace Signaling.Registry

variable {r : Registry} {wire : Nat} {client text : String} {m : Message}

theorem request_of_granted (h : (r.request wire client).2.owner = some client) :
    (r.request wire client).1 = [.publish (.viewerConnected client), .offer wire client] := by
  rcases r.request_cases wire client with ⟨owner, howner, hne, -, hrequest⟩ | ⟨-, hrequest⟩
  · rw [hrequest, howner] at h
    exact absurd (Option.some.inj h) hne
  · rw [hrequest]

/-- What it comes to that a request is granted. -/
theorem receive_of_granted (hm : Message.ofText text = .ok m) (hrequest : m.type = "request")
    (hclient : (r.receive wire text).2.client? wire = some client)
    (hgranted : (r.receive wire text).2.owner = some client) :
    (r.receive wire text).1 = [.publish (.viewerConnected client), .offer wire client] := by
  have henrolled {enrolled : Registry} {name : String} (hname : enrolled.client? wire = some name)
      (hreceive : r.receive wire text = enrolled.handle wire name m) :
      (r.receive wire text).1 = [.publish (.viewerConnected client), .offer wire client] := by
    rw [hreceive] at hclient hgranted ⊢
    rw [client?_handle, hname] at hclient
    obtain rfl := Option.some.inj hclient
    rw [handle_of_request hrequest] at hgranted ⊢
    exact request_of_granted hgranted
  rcases r.enroll_cases wire m with ⟨hnone, henroll⟩ | ⟨name, hname, henroll⟩ |
    ⟨registration, hregistration, hnone, ⟨_, -, -, henroll⟩ | ⟨-, henroll⟩⟩
  · simp [receive, hm, henroll, client?, hnone] at hclient
  · exact henrolled hname (by simp only [receive, hm, henroll])
  · simp [receive, hm, henroll, client?, hregistration, hnone] at hclient
  · have hname := (client?_enlist hregistration (identify registration m) wire).trans (if_pos rfl)
    exact henrolled hname (by simp only [receive, hm, henroll])

end Signaling.Registry

namespace Rehearsal

variable {x : Rehearsal} {opened : List Nat}

/-- A client requests the stream and is granted it.  Nothing is sent at once.  From then on,
whatever happens, the ledger has an entry for the request that is sound: the local description is
looked for until a look finds one and as often as is set, and what the client is sent on its
connection is one offer with the description that was found, or nothing. -/
theorem offered_on_request (hx : Reachable opened x) (hattempts : 0 < x.retry.attempts)
    {wire : Nat} {client text : String} {m : Message} (hm : Message.ofText text = .ok m)
    (hrequest : m.type = "request")
    (hclient : (x.take (.dispatch (.message wire text))).registry.client? wire = some client)
    (hgranted : (x.take (.dispatch (.message wire text))).registry.owner = some client) :
    let granted := x.take (.dispatch (.message wire text))
    granted.outbox = x.outbox ∧ granted.registry.wire? client = some wire ∧
      (∃ ledger, x.Balanced ledger) ∧
      ∀ ledger, x.Balanced ledger →
        let asked := ledger ++ [⟨wire, client, x.retry.attempts, [], .now⟩]
        granted.Balanced asked ∧
        ∀ turns, granted.Onward turns →
          (granted.takeAll turns).retry = x.retry ∧
          (granted.takeAll turns).Balanced (granted.pursueAll asked turns) ∧
          ∃ p, (granted.pursueAll asked turns)[ledger.length]? = some p ∧
            p.wire = wire ∧ p.client = client ∧ p.attempts = x.retry.attempts ∧
            (granted.takeAll turns).Sound p ∧
            ((∀ look ∈ p.looks, look.description = "") ∧ p.sent = [] ∨
              ∃ last ∈ p.looks.getLast?, last.description ≠ "" ∧ p.wait = .done ∧
                p.sent = [(wire, (Message.offer client last.description).text)]) := by
  intro granted
  have hnext : Reachable opened granted :=
    hx.turn (.dispatch (.message wire text)) (by simp [Turn.opened])
  have hactions : (x.registry.dispatch (.message wire text)).1 =
      [.publish (.viewerConnected client), .offer wire client] := by
    rw [registry_take] at hclient hgranted
    exact Registry.receive_of_granted hm hrequest hclient hgranted
  have hwire := (hnext.registry.consistent.client?_iff wire client).mp hclient
  refine ⟨?_, hwire, hx.exists_balanced, ?_⟩
  · simp only [granted, take, hactions]
    rfl
  · intro ledger hledger asked
    have hpursue : x.pursue ledger (.dispatch (.message wire text)) = asked := by
      simp only [pursue, hactions]
      rfl
    have hasked : granted.Balanced asked := hpursue ▸ hledger.take (.dispatch (.message wire text))
    refine ⟨hasked, ?_⟩
    intro turns honward
    have hentry : asked[ledger.length]? = some ⟨wire, client, x.retry.attempts, [], .now⟩ :=
      List.getElem?_concat_length
    obtain ⟨p, hp, hsound, rfl, rfl, hsame⟩ := (sound_new granted wire client hattempts).pursueAll
      hnext.link hentry honward
    exact ⟨(granted.retry_takeAll turns).trans (x.retry_take _), hasked.takeAll turns, p, hp, rfl,
      rfl, hsame, hsound, hsound.sent_cases⟩

/-- A device that has a connection without a description, and a viewer that it does not know yet. -/
def wordless : Rehearsal :=
  ((new .working ⟨.h264, [], false, 100⟩ ⟨3, 10⟩ true).withSession
    ((Session.new ⟨.h264, [], false, 100⟩ []).run [.establish (.working none)])).takeAll
    [.dispatch (.connected 1 (some "c1"))]

/-- The description comes late, and at first it has only candidates that are not advertised. -/
def lateDescription : List Turn :=
  [.job 0, .describe 0 "a=candidate:1 1 udp 1 fe80::1 5000 typ host", .wake 10, .job 0,
    .describe 0 "v=0", .wake 20, .job 0]

theorem onward_lateDescription :
    (wordless.take (.dispatch (.message 1 requestText))).Onward lateDescription := by
  simp only [wordless, takeAll, List.foldl, take, Registry.dispatch, Registry.receive,
    ofText_requestText]
  exact ⟨Nat.le_refl 0, Nat.le_refl 0, Nat.zero_le 10, Nat.le_refl 10, Nat.le_refl 10,
    Nat.le_add_right 10 10, Nat.le_refl 20, trivial⟩

theorem looks_lateDescription :
    (((wordless.take (.dispatch (.message 1 requestText))).pursueAll
      [⟨1, "c1", 3, [], .now⟩] lateDescription)[0]?.map fun p ↦
        p.looks.map fun look ↦ (look.time, look.description)) =
      some [(0, ""), (10, ""), (20, "v=0\r\n")] := by
  simp only [wordless, takeAll, List.foldl, take, Registry.dispatch, Registry.receive,
    ofText_requestText]
  rfl

theorem granted_wordless : wordless.retry = ⟨3, 10⟩ ∧
    (wordless.take (.dispatch (.message 1 requestText))).registry.client? 1 = some "c1" ∧
    (wordless.take (.dispatch (.message 1 requestText))).registry.owner = some "c1" := by
  simp only [wordless, takeAll, List.foldl, take, Registry.dispatch, Registry.receive,
    ofText_requestText]
  exact ⟨rfl, rfl, rfl⟩

/-- The viewer is sent what the third look finds. -/
theorem offered_on_request_late :
    ∃ p, ((wordless.take (.dispatch (.message 1 requestText))).pursueAll
        [⟨1, "c1", 3, [], .now⟩] lateDescription)[0]? = some p ∧
      p.looks.map (fun look ↦ (look.time, look.description)) =
        [(0, ""), (10, ""), (20, "v=0\r\n")] ∧
      p.sent = [(1, (Message.offer "c1" "v=0\r\n").text)] := by
  obtain ⟨opened, hx⟩ : ∃ opened, Reachable opened wordless :=
    (Reachable.start _ _ _ _ _ _).takeAll _ (by decide)
  have hbalanced : wordless.Balanced [] := ⟨.refl [], .refl []⟩
  obtain ⟨hretry, hclient, hgranted⟩ := granted_wordless
  have hlooks := looks_lateDescription
  obtain ⟨-, -, -, hledger⟩ := offered_on_request hx (by rw [hretry]; decide) ofText_requestText rfl
    hclient hgranted
  obtain ⟨-, hturns⟩ := hledger [] hbalanced
  obtain ⟨-, -, p, hp, -, -, -, -, hcases⟩ := hturns lateDescription onward_lateDescription
  simp only [hretry, List.nil_append, List.length_nil] at hp
  rw [hp, Option.map_some, Option.some.injEq] at hlooks
  refine ⟨p, hp, hlooks, ?_⟩
  have hlast : p.looks.getLast?.map (fun look ↦ (look.time, look.description)) =
      some (20, "v=0\r\n") := by
    rw [← List.getLast?_map, hlooks]
    rfl
  rcases hcases with ⟨hblank, -⟩ | ⟨last, hmem, -, -, hsent⟩
  · obtain ⟨last, hmem, heq⟩ := Option.map_eq_some_iff.mp hlast
    have hdescription := hblank last (List.mem_of_getLast? hmem)
    simp [hdescription] at heq
  · rw [Option.mem_def.mp hmem] at hlast
    have hdescription : last.description = "v=0\r\n" := (Prod.mk.inj (Option.some.inj hlast)).2
    rw [hsent, hdescription]

end Rehearsal

end LiveCamera
