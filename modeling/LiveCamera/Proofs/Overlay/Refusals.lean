import LiveCamera.Proofs.Overlay.Redrawing

/-!
# Rectangles that are refused

A rectangle is checked before anything is touched, so a request that is refused changes nothing.
Past the checks only calls of the hardware can fail: a table that has been checked is never overrun.

The check of the range adds up machine words before it compares them.  For the last numbers the end
of the range is not a machine word, and the addition crashes instead of being refused
(`drawRect_of_le`).  That is why not every slot past the last one is refused (`not_always_refused`).
-/

namespace LiveCamera

namespace Compositor

variable {c : Compositor} {id : Nat} {camera : Size} {cause : Failure}

/-- With a camera bound, a range whose end is not a machine word crashes. -/
theorem drawRect_of_le (hcamera : c.camera = some camera) (hword : wordSize ≤ id + rectangleSlots)
    (x y w h : Int) (color : Color) (thickness : Int) :
    c.drawRect id x y w h color thickness = (.error (.rangeOverflow id), c) := by
  unfold drawRect
  simp only [requireCamera_of_bound hcamera, if_pos hword]

/-- With a camera bound, any other range that passes the end of the table is refused. -/
theorem drawRect_of_lt (hcamera : c.camera = some camera) (hword : id + rectangleSlots < wordSize)
    (hpast : regionLimit < id + rectangleSlots) (x y w h : Int) (color : Color) (thickness : Int) :
    c.drawRect id x y w h color thickness =
      (.error (.rectangleOutOfRange id (regionLimit - rectangleSlots)), c) := by
  unfold drawRect
  simp only [requireCamera_of_bound hcamera, if_neg (Nat.not_le.mpr hword), if_pos hpast]

/-- A rectangle fails because it is refused or the end of its range is not a machine word, which
changes nothing, or because a call of the hardware was made to fail. -/
theorem InStep.drawRect_eq_error (h : c.InStep)
    (hbounds : ∀ camera, c.camera = some camera →
      camera.width ≤ Rect.maxCoordinate ∧ camera.height ≤ Rect.maxCoordinate)
    {x y w h' : Int} {color : Color} {thickness : Int}
    (herror : (c.drawRect id x y w h' color thickness).1 = .error cause) :
    (cause.isRefusal = true ∨ wordSize ≤ id + rectangleSlots ∧ cause = .rangeOverflow id) ∧
        (c.drawRect id x y w h' color thickness).2 = c ∨
      some cause ∈ c.hardware.verdicts := by
  rcases h.redraws_drawRect hbounds id x y w h' color thickness with
    ⟨refusal, hrefusal, hdraw⟩ | ⟨-, -, hredraws⟩
  · rw [hdraw] at herror ⊢
    cases herror
    exact .inl ⟨hrefusal, rfl⟩
  · exact .inr (hredraws.failed cause herror)

/-- A rectangle is drawn after any requests, with any calls of the hardware made to fail.  Where it
is refused, nothing has changed, unless that very failure was made to happen.  As long as the end of
its range is a machine word, it never crashes, and ranges that pass the end of the table are refused
as a wrong argument.  Where the end is not a machine word, the request crashes as soon as a camera
is bound, and nothing has changed then. -/
theorem drawRect_refusals (o : Orientation) (attaching committing detaching : Verdicts)
    (requests : List Request)
    (hbounds : ∀ camera,
      ((new o ⟨.empty, attaching, committing, detaching⟩).performAll requests).camera =
          some camera →
        camera.width ≤ Rect.maxCoordinate ∧ camera.height ≤ Rect.maxCoordinate)
    (id : Nat) (x y w h : Int) (color : Color) (thickness : Int) :
    let c := (new o ⟨.empty, attaching, committing, detaching⟩).performAll requests
    let answer := c.drawRect id x y w h color thickness
    (∀ cause, answer.1 = .error cause → cause.isRefusal = true →
      answer.2 = c ∨ some cause ∈ attaching ++ committing ++ detaching) ∧
    (id + rectangleSlots < wordSize →
      (∀ cause, answer.1 = .error cause → cause.kind = .crash →
        some cause ∈ attaching ++ committing ++ detaching) ∧
      ∀ camera, c.camera = some camera → regionLimit - rectangleSlots < id →
        answer = (.error (.rectangleOutOfRange id (regionLimit - rectangleSlots)), c) ∧
          (Failure.rectangleOutOfRange id (regionLimit - rectangleSlots)).kind = .argument) ∧
    (wordSize ≤ id + rectangleSlots → ∀ camera, c.camera = some camera →
      answer = (.error (.rangeOverflow id), c) ∧ (Failure.rangeOverflow id).kind = .crash) := by
  intro c answer
  have hcarried := (inStep_new o attaching committing detaching).performAll requests
  have herrors := fun cause (herror : answer.1 = .error cause) ↦
    hcarried.inStep.drawRect_eq_error hbounds herror
  refine ⟨?_, ?_, ?_⟩
  · intro cause herror hrefusal
    rcases herrors cause herror with ⟨-, hsame⟩ | hmem
    · exact .inl hsame
    · exact .inr (hcarried.verdicts hmem)
  · intro hword
    refine ⟨?_, ?_⟩
    · intro cause herror hcrash
      rcases herrors cause herror with ⟨hrefusal | ⟨hoverflow, -⟩, -⟩ | hmem
      · exact absurd hcrash (Failure.kind_ne_crash_of_isRefusal hrefusal)
      · exact absurd hword (Nat.not_lt.mpr hoverflow)
      · exact hcarried.verdicts hmem
    · intro camera hcamera hlast
      have hpast : regionLimit < id + rectangleSlots := by
        unfold regionLimit rectangleSlots at *
        omega
      exact ⟨drawRect_of_lt hcamera hword hpast x y w h color thickness, rfl⟩
  · intro hword camera hcamera
    exact ⟨drawRect_of_le hcamera hword x y w h color thickness, rfl⟩

/-- The last slot whose range has an end is refused like the first one past the table, and the slot
after it crashes. -/
theorem drawRect_refusals_at_last_words :
    let c := (new .natural .healthy).performAll [.bind ⟨8, 6⟩, .add ⟨0, 0, 2, 1⟩ .bgra8888]
    (∀ id ∈ [13, wordSize - 5],
      c.drawRect id 0 0 8 6 .red 0 = (.error (.rectangleOutOfRange id 12), c)) ∧
    c.drawRect (wordSize - 4) 0 0 8 6 .red 0 = (.error (.rangeOverflow (wordSize - 4)), c) := by
  intro c
  have hcamera : c.camera = some ⟨8, 6⟩ := by decide +kernel
  have hbounds : ∀ camera, c.camera = some camera →
      camera.width ≤ Rect.maxCoordinate ∧ camera.height ≤ Rect.maxCoordinate := by
    intro camera hsome
    obtain rfl := Option.some.inj (hcamera.symm.trans hsome)
    decide
  have hrefusals := fun id ↦ drawRect_refusals .natural [] [] [] _ hbounds id 0 0 8 6 .red 0
  refine ⟨?_, ?_⟩
  · intro id hid
    have hwords : ∀ id ∈ [13, wordSize - 5], id + rectangleSlots < wordSize ∧ 12 < id := by
      decide
    obtain ⟨hend, hlast⟩ := hwords id hid
    obtain ⟨-, hrefused, -⟩ := hrefusals id
    exact ((hrefused hend).2 _ hcamera hlast).1
  · obtain ⟨-, -, hcrashed⟩ := hrefusals (wordSize - 4)
    exact (hcrashed (by decide) _ hcamera).1

/-- A slot past the last one is not always refused, and drawing a rectangle may crash: where the end
of the range is not a machine word, it does. -/
theorem not_always_refused :
    (¬∀ (requests : List Request) (id : Nat), id < wordSize → ∀ cause,
      (((new .natural .healthy).performAll requests).drawRect id 0 0 8 6 .red 0).1 = .error cause →
        cause.kind ≠ .crash) ∧
    ¬∀ (requests : List Request) (id : Nat) (camera : Size),
      let c := (new .natural .healthy).performAll requests
      id < wordSize → c.camera = some camera → regionLimit - rectangleSlots < id →
        ∃ cause, (c.drawRect id 0 0 8 6 .red 0).1 = .error cause ∧ cause.kind = .argument := by
  have hanswer : (((new .natural .healthy).performAll [.bind ⟨8, 6⟩]).drawRect
      (wordSize - 4) 0 0 8 6 .red 0).1 = .error (.rangeOverflow (wordSize - 4)) := by
    decide +kernel
  constructor
  · intro hall
    exact hall [.bind ⟨8, 6⟩] (wordSize - 4) (by decide) _ hanswer rfl
  · intro hall
    obtain ⟨cause, herror, hargument⟩ := hall [.bind ⟨8, 6⟩] (wordSize - 4) ⟨8, 6⟩ (by decide) rfl
      (by decide)
    rw [hanswer] at herror
    cases herror
    cases hargument

end Compositor

end LiveCamera
