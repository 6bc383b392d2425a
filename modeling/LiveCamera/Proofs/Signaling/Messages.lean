import LiveCamera.Proofs.Json.Reading
import LiveCamera.Signaling.Message

/-!
# Messages on the wire

Every message that was read is tidy, and a tidy message whose numbers are integers is read from its
own text (`ofText_text`).  The messages that the device writes itself are of this kind whatever
identifiers and descriptions they hold, line breaks and quotes included: they arrive as they were
meant, each as a single line (`written_arrives`).
-/

namespace LiveCamera.Signaling.Message

open Json

variable {m : Message} {text : String}

/-- Whether the fields of a message are in order and do not nest too deep. -/
def Tidy (m : Message) : Prop := (Datum.record m.fields).Tidy nestingLimit

/-- Whether the numbers in a message are integers of 64 bits. -/
def Whole (m : Message) : Prop := (Datum.record m.fields).Whole

theorem ofText_eq_ok_iff :
    ofText text = .ok m ↔
      Datum.ofText? text = some (.record m.fields) ∧ (m.textField? "type").isSome := by
  unfold ofText
  cases hread : Datum.ofText? text with
  | none => simp
  | some d =>
    cases d with
    | record fields =>
      dsimp only
      split_ifs with htype
      · simp only [Except.ok.injEq, Option.some.injEq, Datum.record.injEq]
        constructor
        · rintro rfl
          exact ⟨rfl, htype⟩
        · rintro ⟨rfl, -⟩
          rfl
      · simp only [Option.some.injEq, Datum.record.injEq, false_iff, not_and]
        rintro rfl
        exact htype
    | _ => simp

theorem tidy_of_ofText (h : ofText text = .ok m) : m.Tidy :=
  tidy_of_ofText? (ofText_eq_ok_iff.mp h).1

/-- A tidy message without doubles is read from its own text. -/
theorem ofText_text (htidy : m.Tidy) (hwhole : m.Whole) (htype : (m.textField? "type").isSome) :
    ofText m.text = .ok m :=
  ofText_eq_ok_iff.mpr ⟨htidy.ofText?_text hwhole, htype⟩

/-- The text of a message without doubles is a single line. -/
theorem printable_of_mem_text (hwhole : m.Whole) {c : Char} (hc : c ∈ m.text.toList) :
    0x20 ≤ c.toNat := by
  rw [text, Datum.text, String.toList_ofList] at hc
  exact hwhole.printable c hc

/-! ## Messages of the device -/

/-- A message in which every field is text. -/
def ofTexts (fields : List (String × String)) : Message :=
  ⟨fields.map fun field ↦ (field.1, .string field.2)⟩

variable {fields : List (String × String)}

theorem textField?_ofTexts (fields : List (String × String)) (name : String) :
    (ofTexts fields).textField? name = fields.lookup name := by
  induction fields with
  | nil => rfl
  | cons field rest ih =>
    obtain ⟨key, value⟩ := field
    have hcons : (ofTexts ((key, value) :: rest)).fields =
        (key, .string value) :: (ofTexts rest).fields := rfl
    unfold textField? at ih ⊢
    rw [hcons, lookup_cons_eq_ite, lookup_cons_eq_ite]
    split_ifs with hname
    · rfl
    · exact ih

theorem whole_ofTexts (fields : List (String × String)) : (ofTexts fields).Whole := by
  refine .record ?_
  intro member hmember
  obtain ⟨field, -, rfl⟩ := List.mem_map.mp hmember
  exact .string field.2

theorem tidy_ofTexts (h : InOrder fields) : (ofTexts fields).Tidy := by
  refine .record (List.pairwise_map.mpr h) ?_
  intro member hmember
  obtain ⟨field, -, rfl⟩ := List.mem_map.mp hmember
  exact .string field.2

/-- How a text arrives that is meant as a message of a kind, about a viewer, with a description or
without one: as such a message and on a single line.  An empty identifier arrives as none. -/
structure Arrives (text type id : String) (sdp : Option String) : Prop where
  read : ∃ m, ofText text = .ok m ∧ m.type = type ∧ m.id? = (if id = "" then none else some id) ∧
    m.sdp? = sdp
  line : ∀ c ∈ text.toList, 0x20 ≤ c.toNat

theorem arrives_ofTexts (h : InOrder fields) {type id : String}
    (htype : fields.lookup "type" = some type) (hid : fields.lookup "id" = some id) :
    Arrives (ofTexts fields).text type id (fields.lookup "sdp") := by
  have hwhole := whole_ofTexts fields
  have hread : ofText (ofTexts fields).text = .ok (ofTexts fields) :=
    ofText_text (tidy_ofTexts h) hwhole (by rw [textField?_ofTexts, htype, Option.isSome_some])
  refine ⟨⟨ofTexts fields, hread, ?_, ?_, ?_⟩, fun c hc ↦ printable_of_mem_text hwhole hc⟩
  · rw [Message.type, textField?_ofTexts, htype, Option.getD_some]
  · rw [id?, textField?_ofTexts, hid]
    by_cases hempty : id = "" <;> simp [hempty, Option.filter]
  · rw [sdp?, textField?_ofTexts]

/-- Offers, answers, requests and rejections arrive as they were written, for every identifier and
every description. -/
theorem written_arrives (id sdp : String) :
    Arrives (offer id sdp).text "offer" id (some sdp) ∧
      Arrives (answer id sdp).text "answer" id (some sdp) ∧
      Arrives (request id).text "request" id none ∧ Arrives (busy id).text "busy" id none := by
  have hlong (type : String) : InOrder [("id", id), ("sdp", sdp), ("type", type)] := by
    simp only [InOrder, List.pairwise_cons, List.mem_cons, List.not_mem_nil, or_false,
      forall_eq_or_imp, forall_eq, false_imp_iff, implies_true, and_true, List.Pairwise.nil]
    decide
  have hshort (type : String) : InOrder [("id", id), ("type", type)] := by
    simp only [InOrder, List.pairwise_cons, List.mem_cons, List.not_mem_nil, or_false, forall_eq,
      false_imp_iff, implies_true, and_true, List.Pairwise.nil]
    decide
  exact ⟨arrives_ofTexts (hlong "offer") rfl rfl, arrives_ofTexts (hlong "answer") rfl rfl,
    arrives_ofTexts (hshort "request") rfl rfl, arrives_ofTexts (hshort "busy") rfl rfl⟩

end LiveCamera.Signaling.Message
