import LiveCamera.Proofs.Json.Reading
import LiveCamera.Settings.Store

/-!
# Stored settings

Settings whose numbers fit their fields are read back from the rows that were saved
(`openOn_of_holds`).
-/

namespace LiveCamera

namespace Json

/-! ## Fields -/

/-- The node of a natural number. -/
def Node.ofNat (n : Nat) : Node := .number ⟨false, Number.digits n, none, none⟩

theorem nat?_ofNat {n limit : Nat} (h : n ≤ limit) (hlimit : limit ≤ Number.maxWord) :
    Node.nat? limit (.ofNat n) = some n := by
  have hnumber := number?_digits (Nat.le_trans h hlimit)
  unfold Node.nat? Node.ofNat
  simp only [hnumber]
  exact if_pos h

/-- The members of a record by their names. -/
def membersOf (fields : List (String × Node)) : List (Option String × Node) :=
  fields.map fun f ↦ (some f.1, f.2)

/-- A name that occurs once finds its field. -/
theorem member?_of_nodup {fields : List (String × Node)} (h : (fields.map Prod.fst).Nodup)
    {f : String × Node} (hf : f ∈ fields) :
    Node.member? f.1 (membersOf fields) = some (some f.2) := by
  have hfilter : (membersOf fields).filter (fun m ↦ m.1 == some f.1) = [(some f.1, f.2)] := by
    induction fields with
    | nil => cases hf
    | cons first rest ih =>
      rw [List.map_cons, List.nodup_cons] at h
      obtain ⟨hfirst, hrest⟩ := h
      rw [membersOf, List.map_cons, ← membersOf]
      rcases List.mem_cons.mp hf with rfl | hmem
      · have hothers : (membersOf rest).filter (fun m ↦ m.1 == some f.1) = [] := by
          rw [List.filter_eq_nil_iff]
          intro m hm
          obtain ⟨g, hg, rfl⟩ := List.mem_map.mp hm
          have hne : g.1 ≠ f.1 := fun heq ↦ hfirst (heq ▸ List.mem_map_of_mem hg)
          simpa using hne
        rw [List.filter_cons_of_pos (by simp), hothers]
      · have hne : first.1 ≠ f.1 := fun heq ↦ hfirst (heq ▸ List.mem_map_of_mem hmem)
        rw [List.filter_cons_of_neg (by simpa using hne), ih hrest hmem]
  simp only [Node.member?, hfilter]

/-- The fields of a record that holds them in their order, each once. -/
theorem fields?_record {fields : List (String × Node)} {names : List String}
    (hnames : fields.map Prod.fst = names) (h : names.Nodup) :
    Node.fields? names (.record (membersOf fields)) = some (fields.map fun f ↦ some f.2) := by
  have hnamed : (membersOf fields).any (·.1.isNone) = false := by
    simp [membersOf]
  have hread : ∀ part : List (String × Node), part ⊆ fields →
      (part.map Prod.fst).mapM (Node.member? · (membersOf fields)) =
        some (part.map fun f ↦ some f.2) := by
    intro part hpart
    induction part with
    | nil => rfl
    | cons f rest ih =>
      have hfirst := member?_of_nodup (hnames.symm ▸ h) (hpart List.mem_cons_self)
      have hrest := ih fun g hg ↦ hpart (List.mem_cons_of_mem f hg)
      rw [List.map_cons, List.mapM_cons, hfirst, hrest]
      rfl
  simp only [Node.fields?, hnamed, Bool.false_eq_true, if_false]
  rw [← hnames]
  exact hread fields (List.Subset.refl _)

end Json

/-! ## Sections -/

open Json

/-- Whether the numbers of a section fit their fields. -/
structure StreamSettings.Fits (s : StreamSettings) : Prop where
  port : s.port ≤ maxWord16
  bitrate : s.bitrate ≤ maxWord32
  keyInterval : s.keyInterval ≤ maxWord32
  signalingPort : s.signalingPort ≤ maxWord16

structure NegotiationSettings.Fits (s : NegotiationSettings) : Prop where
  descriptionAttempts : s.descriptionAttempts ≤ maxWord32
  descriptionDelay : s.descriptionDelay ≤ maxWord64
  connectAttempts : s.connectAttempts ≤ maxWord32
  connectPoll : s.connectPoll ≤ maxWord64
  resetSettle : s.resetSettle ≤ maxWord64

theorem StreamSettings.fits_initial : initial.Fits := by
  constructor <;> decide

theorem NegotiationSettings.fits_initial : initial.Fits := by
  constructor <;> decide

theorem StreamSettings.ofText?_text {s : StreamSettings} (h : s.Fits) :
    (Node.ofText? s.datum.text).bind ofNode? = some s := by
  have hnode : s.datum.node? = some (.record (membersOf
      [("ip", .string (some s.address)), ("port", .ofNat s.port),
        ("codec", .string (some s.codec)), ("rate_control", .string (some s.rateControl)),
        ("bitrate", .ofNat s.bitrate), ("gop", .ofNat s.keyInterval),
        ("signaling_ip", .string (some s.signalingAddress)),
        ("signaling_port", .ofNat s.signalingPort), ("stun_server", .string (some s.iceServer)),
        ("http_server", .bool s.servesPage)])) := rfl
  rw [Json.ofText?_text hnode, Option.bind_some, ofNode?, fields?_record]
  · simp only [Option.bind_eq_bind, Option.bind_some, List.map_cons, List.map_nil, Json.optional,
      Node.text?, Node.bool?, nat?_ofNat h.port (by decide), nat?_ofNat h.bitrate (by decide),
      nat?_ofNat h.keyInterval (by decide), nat?_ofNat h.signalingPort (by decide)]
    rfl
  · rfl
  · decide

theorem DeviceSettings.ofText?_text (s : DeviceSettings) :
    (Node.ofText? s.datum.text).bind ofNode? = some s := by
  have hnode : s.datum.node? = some (.record (membersOf
      [("cam_flip", .bool s.flipped), ("cam_mirror", .bool s.mirrored)])) := rfl
  rw [Json.ofText?_text hnode, Option.bind_some, ofNode?, fields?_record]
  · rfl
  · rfl
  · decide

theorem NegotiationSettings.ofText?_text {s : NegotiationSettings} (h : s.Fits) :
    (Node.ofText? s.datum.text).bind ofNode? = some s := by
  have hnode : s.datum.node? = some (.record (membersOf
      [("description_attempts", .ofNat s.descriptionAttempts),
        ("description_delay_ms", .ofNat s.descriptionDelay),
        ("connect_attempts", .ofNat s.connectAttempts), ("connect_poll_ms", .ofNat s.connectPoll),
        ("reset_settle_ms", .ofNat s.resetSettle)])) := rfl
  rw [Json.ofText?_text hnode, Option.bind_some, ofNode?, fields?_record]
  · simp only [Option.bind_eq_bind, Option.bind_some, List.map_cons, List.map_nil, Json.optional,
      nat?_ofNat h.descriptionAttempts (by decide), nat?_ofNat h.descriptionDelay (by decide),
      nat?_ofNat h.connectAttempts (by decide), nat?_ofNat h.connectPoll (by decide),
      nat?_ofNat h.resetSettle (by decide)]
    rfl
  · rfl
  · decide

/-! ## Numbers that were read -/

theorem le_of_nat?_eq_some {limit n : Nat} {node : Node} (h : node.nat? limit = some n) :
    n ≤ limit := by
  unfold Node.nat? at h
  split at h
  · split at h
    · split_ifs at h with hle
      exact Option.some.inj h ▸ hle
    · cases h
  · cases h

theorem le_of_optional {limit n initial : Nat} {node : Option Node} (hinitial : initial ≤ limit)
    (h : Json.optional initial (Node.nat? limit) node = some n) : n ≤ limit := by
  cases node with
  | none => exact Option.some.inj h ▸ hinitial
  | some node => exact le_of_nat?_eq_some h

theorem StreamSettings.fits_of_ofNode? {node : Node} {s : StreamSettings}
    (h : ofNode? node = some s) : s.Fits := by
  unfold ofNode? at h
  simp only [Option.bind_eq_bind, Option.bind_eq_some_iff] at h
  obtain ⟨fields, -, h⟩ := h
  split at h
  · simp only [Option.bind_eq_some_iff, pure, Option.some.injEq] at h
    obtain ⟨_, -, _, hport, _, -, _, -, _, hbitrate, _, hinterval, _, -, _, hsignaling, _, -, _, -,
      rfl⟩ := h
    exact ⟨le_of_optional (by decide) hport, le_of_optional (by decide) hbitrate,
      le_of_optional (by decide) hinterval, le_of_optional (by decide) hsignaling⟩
  · cases h

theorem NegotiationSettings.fits_of_ofNode? {node : Node} {s : NegotiationSettings}
    (h : ofNode? node = some s) : s.Fits := by
  unfold ofNode? at h
  simp only [Option.bind_eq_bind, Option.bind_eq_some_iff] at h
  obtain ⟨fields, -, h⟩ := h
  split at h
  · simp only [Option.bind_eq_some_iff, pure, Option.some.injEq] at h
    obtain ⟨_, hattempts, _, hdelay, _, hconnects, _, hpoll, _, hsettle, rfl⟩ := h
    exact ⟨le_of_optional (by decide) hattempts, le_of_optional (by decide) hdelay,
      le_of_optional (by decide) hconnects, le_of_optional (by decide) hpoll,
      le_of_optional (by decide) hsettle⟩
  · cases h

/-! ## Rows -/

/-- Whether the numbers of settings fit their fields. -/
structure Settings.Fits (s : Settings) : Prop where
  stream : s.stream.Fits
  negotiation : s.negotiation.Fits

/-- Whether a text is read as a section of the settings. -/
def Section.Reads (part : Section) (text : String) (settings : Settings) : Prop :=
  match part with
  | .stream => (Node.ofText? text).bind StreamSettings.ofNode? = some settings.stream
  | .device => (Node.ofText? text).bind DeviceSettings.ofNode? = some settings.device
  | .negotiation =>
    (Node.ofText? text).bind NegotiationSettings.ofNode? = some settings.negotiation

/-- A saved section is read back. -/
theorem Settings.reads_sectionText {s : Settings} (h : s.Fits) (part : Section) :
    part.Reads (s.sectionText part) s := by
  cases part with
  | stream => exact StreamSettings.ofText?_text h.stream
  | device => exact DeviceSettings.ofText?_text s.device
  | negotiation => exact NegotiationSettings.ofText?_text h.negotiation

/-- Whether the row of a section is there and reads as that section of the settings. -/
def Rows.Holds (rows : Rows) (part : Section) (settings : Settings) : Prop :=
  ∃ text, rows.get? part.name = some text ∧ part.Reads text settings

theorem Rows.holds_put {settings : Settings} (h : settings.Fits) (rows : Rows) (part : Section) :
    (rows.put part.name (settings.sectionText part)).Holds part settings :=
  ⟨settings.sectionText part, get?_put_self rows part.name _, settings.reads_sectionText h part⟩

theorem Rows.Holds.put_of_ne {rows : Rows} {part other : Section} {settings : Settings}
    (h : rows.Holds part settings) (hother : part ≠ other) (text : String) :
    (rows.put other.name text).Holds part settings := by
  obtain ⟨stored, hget, hreads⟩ := h
  refine ⟨stored, ?_, hreads⟩
  rw [get?_put_of_ne rows fun heq ↦ hother (Section.name_injective heq), hget]

namespace Store

variable {α : Type} {rows after : Rows} {part : Section} {initial value : α} {textOf : α → String}
  {ofNode? : Node → Option α}

theorem readSection_of_get? {text : String} (hget : rows.get? part.name = some text)
    (hread : (Node.ofText? text).bind ofNode? = some value) :
    readSection rows part initial textOf ofNode? = (.ok value, rows) := by
  simp only [readSection, hget, hread]

/-- A section that was read has a row that reads the same, and reading it leaves other rows
alone. -/
theorem readSection_eq_ok (h : readSection rows part initial textOf ofNode? = (.ok value, after))
    (hinitial : (Node.ofText? (textOf initial)).bind ofNode? = some initial) :
    (∃ text, after.get? part.name = some text ∧
        (Node.ofText? text).bind ofNode? = some value) ∧
      ∀ key ≠ part.name, after.get? key = rows.get? key := by
  unfold readSection at h
  cases hget : rows.get? part.name with
  | none =>
    rw [hget] at h
    cases h
    exact ⟨⟨textOf initial, Rows.get?_put_self rows part.name _, hinitial⟩,
      fun key hkey ↦ Rows.get?_put_of_ne rows hkey _⟩
  | some stored =>
    rw [hget] at h
    dsimp only at h
    cases hread : (Node.ofText? stored).bind ofNode? with
    | none =>
      rw [hread] at h
      cases h
    | some found =>
      rw [hread] at h
      cases h
      exact ⟨⟨stored, hget, hread⟩, fun _ _ ↦ rfl⟩

/-- Opening a store whose rows are all there reads them. -/
theorem openOn_of_holds {saved : Section → Settings} (h : ∀ part, rows.Holds part (saved part)) :
    openOn rows = (.ok ⟨rows, ⟨(saved .stream).stream, (saved .device).device,
      (saved .negotiation).negotiation⟩, Broadcast.new changeCapacity⟩, rows) := by
  obtain ⟨stream, hstream, hreadStream⟩ := h .stream
  obtain ⟨device, hdevice, hreadDevice⟩ := h .device
  obtain ⟨negotiation, hnegotiation, hreadNegotiation⟩ := h .negotiation
  unfold openOn
  rw [readSection_of_get? hstream hreadStream]
  dsimp only
  rw [readSection_of_get? hdevice hreadDevice]
  dsimp only
  rw [readSection_of_get? hnegotiation hreadNegotiation]

/-- A store that was opened has a row for each section, which reads as its settings. -/
theorem holds_of_openOn {s : Store} (h : openOn rows = (.ok s, after)) :
    s.settings.Fits ∧ ∀ part, s.rows.Holds part s.settings := by
  unfold openOn at h
  split at h
  · cases h
  rename_i stream rowsStream hstream
  split at h
  · cases h
  rename_i device rowsDevice hdevice
  split at h
  · cases h
  rename_i negotiation rowsNegotiation hnegotiation
  cases h
  obtain ⟨⟨streamText, hgetStream, hreadStream⟩, -⟩ :=
    readSection_eq_ok hstream (StreamSettings.ofText?_text StreamSettings.fits_initial)
  obtain ⟨⟨deviceText, hgetDevice, hreadDevice⟩, hkeepDevice⟩ :=
    readSection_eq_ok hdevice (DeviceSettings.ofText?_text _)
  obtain ⟨⟨negotiationText, hgetNegotiation, hreadNegotiation⟩, hkeepNegotiation⟩ :=
    readSection_eq_ok hnegotiation
      (NegotiationSettings.ofText?_text NegotiationSettings.fits_initial)
  obtain ⟨streamNode, -, hstreamNode⟩ := Option.bind_eq_some_iff.mp hreadStream
  obtain ⟨negotiationNode, -, hnegotiationNode⟩ := Option.bind_eq_some_iff.mp hreadNegotiation
  refine ⟨⟨StreamSettings.fits_of_ofNode? hstreamNode,
    NegotiationSettings.fits_of_ofNode? hnegotiationNode⟩, ?_⟩
  intro part
  cases part with
  | stream =>
    refine ⟨streamText, ?_, hreadStream⟩
    rw [hkeepNegotiation _ (by decide), hkeepDevice _ (by decide), hgetStream]
  | device =>
    refine ⟨deviceText, ?_, hreadDevice⟩
    rw [hkeepNegotiation _ (by decide), hgetDevice]
  | negotiation => exact ⟨negotiationText, hgetNegotiation, hreadNegotiation⟩

end Store

end LiveCamera
