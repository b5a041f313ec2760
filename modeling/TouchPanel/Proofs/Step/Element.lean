import TouchPanel.Widget.Element
import TouchPanel.Proofs.Step.Model

/-!
# Steps of labels and buttons

Labels and buttons are stepped alike: the element follows the pointer (which only a button does),
and if it is dirty then, it draws a ground with a text on it and is clean. They differ in the
corner of the text, which a label has at its left edge and a button in its middle.

* `Element.followed`, `Element.picture` — the two halves of a step.
* `Element.sound` — a step is made of them.
-/

namespace TouchPanel

namespace Element

-- ---------------------------------------------------------------------------
-- What an element looks like
-- ---------------------------------------------------------------------------

/-- The text shown. -/
def text : Element → String
  | label l => l.text
  | button b => b.text

/-- The colour of the text. -/
def ink : Element → Color
  | label l => l.color
  | button b => b.textColor

/-- The colour behind the text. -/
def ground : Element → Color
  | label l => l.background
  | button b => b.fill

/-- The corner of a text of the given size in the area of the element. -/
def textCorner (area : Rect) (size : Size) : Element → Point
  | label _ => ⟨area.x, area.y + area.height.subSat size.height / 2⟩
  | button _ =>
      ⟨area.x + area.width.subSat size.width / 2, area.y + area.height.subSat size.height / 2⟩

/-- The corner of a text of the given size is in the plane. -/
def CornerInPlane (area : Rect) (size : Size) : Element → Prop
  | label _ => area.y.toNat + (area.height.subSat size.height / 2).toNat < 1 <<< 64
  | button _ =>
      area.x.toNat + (area.width.subSat size.width / 2).toNat < 1 <<< 64 ∧
        area.y.toNat + (area.height.subSat size.height / 2).toNat < 1 <<< 64

/-- Whether the button is pressed, if the element is one. -/
def pressed? : Element → Option Bool
  | label _ => none
  | button b => some b.pressed

/-- What the element draws when it lies in an area of the screen. -/
def picture (measure : TextMeasure) (area : Rect) (e : Element) : List Primitive :=
  [.rect area e.ground, .text (e.textCorner area (measure.size e.text)) e.text e.ink]

section MapState

variable (f : WidgetState → WidgetState) (e : Element)

theorem text_mapState : (e.mapState f).text = e.text := by
  cases e <;> rfl

theorem pressed?_mapState : (e.mapState f).pressed? = e.pressed? := by
  cases e <;> rfl

/-- The common state has no part in what an element looks like. -/
theorem picture_mapState (measure : TextMeasure) (area : Rect) :
    (e.mapState f).picture measure area = e.picture measure area := by
  cases e <;> rfl

end MapState

/-- The text of the element has a size, and its corner is in the plane. -/
def Writable (measure : TextMeasure) (area : Rect) (e : Element) : Prop :=
  ∃ size, measure e.text = .ok size ∧ e.CornerInPlane area size

-- ---------------------------------------------------------------------------
-- What becomes of an element
-- ---------------------------------------------------------------------------

/-- The element after it has followed the pointer, before it draws. -/
def followed (origin : Point) (tick : Tick) : Element → Element
  | label l => label l
  | button b => button (b.track (b.state.globalBounds origin) tick.pointer).1

instance : StepModel Element where
  next origin tick e := (e.followed origin tick).mapState .clearDirty
  drawing measure origin tick e :=
    if (e.followed origin tick).state.dirty then
      (e.followed origin tick).picture measure (e.state.globalBounds origin)
    else []
  Drawable measure origin tick e :=
    (e.followed origin tick).state.dirty = true →
      (e.followed origin tick).Writable measure (e.state.globalBounds origin)

theorem state_followed (origin : Point) (tick : Tick) (e : Element) :
    (e.followed origin tick).state =
      { e.state with dirty := (e.followed origin tick).state.dirty } := by
  cases e with
  | label l => rfl
  | button b =>
    show (b.track _ _).1.state = _
    rw [Button.track_eq]
    rfl

/-- An element that has followed the pointer is dirty if it was before, or is a button that is
pressed or no longer pressed. -/
theorem dirty_followed (origin : Point) (tick : Tick) (e : Element) :
    (e.followed origin tick).state.dirty = true ↔
      e.state.dirty = true ∨ (e.followed origin tick).pressed? ≠ e.pressed? := by
  cases e with
  | label l => simp [followed, pressed?]
  | button b =>
    have hDirty := b.dirty_track (b.state.globalBounds origin) tick.pointer
    simp only [followed, state, pressed?, hDirty, Bool.or_eq_true, bne_iff_ne, ne_eq,
      Option.some.injEq]

/-- A dirty button is pressed or released by the same ticks as a clean one. -/
theorem pressed?_followed_markDirty (origin : Point) (tick : Tick) (e : Element) :
    ((Widget.markDirty e).followed origin tick).pressed? = (e.followed origin tick).pressed? := by
  cases e with
  | label l => rfl
  | button b =>
    refine congrArg some ?_
    show (Button.track _ _ _).1.pressed = (Button.track _ _ _).1.pressed
    rw [Button.pressed_track, Button.pressed_track]
    rfl

theorem state_next (origin : Point) (tick : Tick) (e : Element) :
    (StepModel.next origin tick e).state = e.state.clearDirty := by
  show ((e.followed origin tick).mapState .clearDirty).state = _
  rw [state_mapState, state_followed]
  rfl

theorem globalBounds_followed (origin place : Point) (tick : Tick) (e : Element) :
    (e.followed origin tick).state.globalBounds place = e.state.globalBounds place := by
  rw [state_followed]
  rfl

/-- A clean element is not changed by cleaning it. -/
theorem mapState_clearDirty_of_clean {e : Element} (h : e.state.dirty = false) :
    e.mapState .clearDirty = e := by
  obtain ⟨⟨⟨_, _, _, _⟩, _⟩⟩ | ⟨⟨⟨_, _, _, _⟩, _⟩⟩ := e <;> cases h <;> rfl

theorem text_followed (origin : Point) (tick : Tick) (e : Element) :
    (e.followed origin tick).text = e.text := by
  cases e with
  | label l => rfl
  | button b =>
    show (b.track _ _).1.text = b.text
    rw [Button.track_eq]

/-- A button that is neither pressed nor released looks as before. -/
theorem picture_followed {origin : Point} {tick : Tick} {e : Element}
    (h : (e.followed origin tick).pressed? = e.pressed?) (measure : TextMeasure) (area : Rect) :
    (e.followed origin tick).picture measure area = e.picture measure area := by
  cases e with
  | label l => rfl
  | button b =>
    have hPressed : (b.track (b.state.globalBounds origin) tick.pointer).1.pressed = b.pressed :=
      Option.some.inj h
    show (button (b.track _ _).1).picture measure area = _
    rw [Button.track_eq, hPressed]
    rfl

-- ---------------------------------------------------------------------------
-- Drawing
-- ---------------------------------------------------------------------------

section Drawing

variable {σ : Type} [Canvas σ] {s t : σ}

/-- A ground, a text measured after it was drawn, and the text: what labels and buttons draw. -/
theorem ends_groundAndText [SteadyCanvas σ] {area : Rect} {ground ink : Color} {text : String}
    {corner : Size → Point} {InPlane : Size → Prop} :
    (∃ u, (Canvas.drawRect area ground).Ends s () u ∧ ∃ size,
        Canvas.textSize u text = .ok size ∧ InPlane size ∧
          ∃ n, (Canvas.drawText (corner size) text ink).Ends u n t) ↔
      (∃ size, Canvas.textSize s text = .ok size ∧ InPlane size) ∧
        (Primitive.drawAll [.rect area ground,
          .text (corner (TextMeasure.size (Canvas.textSize s) text)) text ink]).Ends s () t := by
  have hSteady {u : σ} (h : (Canvas.drawRect area ground).Ends s () u) :
      Canvas.textSize u = Canvas.textSize s :=
    SteadyCanvas.textSize_draw (p := .rect area ground) h
  simp only [Primitive.ends_drawAll_cons, Primitive.ends_drawAll_nil, Primitive.draw,
    Paint.ends_discard]
  constructor
  · intro hEnds
    obtain ⟨u, hRect, size, hSize, hInPlane, n, hText⟩ := hEnds
    rw [hSteady hRect] at hSize
    rw [TextMeasure.size_of_ok hSize]
    exact ⟨⟨size, hSize, hInPlane⟩, u, hRect, t, ⟨n, hText⟩, rfl⟩
  · intro hParts
    obtain ⟨⟨size, hSize, hInPlane⟩, u, hRect, _, ⟨n, hText⟩, rfl⟩ := hParts
    rw [TextMeasure.size_of_ok hSize] at hText
    refine ⟨u, hRect, size, ?_, hInPlane, n, hText⟩
    rw [hSteady hRect]
    exact hSize

/-- The drawing of an element on its own, given the place of its owner. -/
def draw (origin : Point) : Element → Paint σ Unit
  | label l => l.draw origin
  | button b => b.draw (b.state.globalBounds origin)

theorem ends_draw [SteadyCanvas σ] {origin : Point} {e : Element} :
    (e.draw origin).Ends s () t ↔
      e.Writable (Canvas.textSize s) (e.state.globalBounds origin) ∧
        (Primitive.drawAll (e.picture (Canvas.textSize s) (e.state.globalBounds origin))).Ends
          s () t := by
  have hPicture : (∃ u, (Canvas.drawRect (e.state.globalBounds origin) e.ground).Ends s () u ∧
      ∃ size, Canvas.textSize u e.text = .ok size ∧
        e.CornerInPlane (e.state.globalBounds origin) size ∧
          ∃ n, (Canvas.drawText (e.textCorner (e.state.globalBounds origin) size) e.text
            e.ink).Ends u n t) ↔
      e.Writable (Canvas.textSize s) (e.state.globalBounds origin) ∧
        (Primitive.drawAll (e.picture (Canvas.textSize s) (e.state.globalBounds origin))).Ends
          s () t := ends_groundAndText
  refine Iff.trans ?_ hPicture
  cases e with
  | label l =>
    simp only [draw, Label.draw, Paint.ends_bind, Paint.liftM_eq_lift, Paint.ends_lift,
      Paint.ends_discard, Canvas.ends_measure, Word.addExact_eq_ok_iff]
    constructor
    · intro hEnds
      obtain ⟨_, u, hRect, size, _, ⟨hSize, rfl⟩, _, _, ⟨⟨hInPlane, rfl⟩, rfl⟩, hText⟩ := hEnds
      exact ⟨_, hRect, size, hSize, hInPlane, hText⟩
    · intro hParts
      obtain ⟨u, hRect, size, hSize, hInPlane, hText⟩ := hParts
      exact ⟨(), u, hRect, size, u, ⟨hSize, rfl⟩, _, u, ⟨⟨hInPlane, rfl⟩, rfl⟩, hText⟩
  | button b =>
    simp only [draw, Button.draw, Paint.ends_bind, Paint.liftM_eq_lift, Paint.ends_lift,
      Paint.ends_discard, Canvas.ends_measure, Word.addExact_eq_ok_iff]
    constructor
    · rintro ⟨_, u, hRect, size, _, ⟨hSize, rfl⟩, _, _, ⟨⟨hX, rfl⟩, rfl⟩, _, _,
        ⟨⟨hY, rfl⟩, rfl⟩, hText⟩
      exact ⟨_, hRect, size, hSize, ⟨hX, hY⟩, hText⟩
    · intro hEnds
      obtain ⟨u, hRect, size, hSize, ⟨hX, hY⟩, hText⟩ := hEnds
      exact ⟨(), u, hRect, size, u, ⟨hSize, rfl⟩, _, u, ⟨⟨hX, rfl⟩, rfl⟩, _, u,
        ⟨⟨hY, rfl⟩, rfl⟩, hText⟩

end Drawing

-- ---------------------------------------------------------------------------
-- Steps
-- ---------------------------------------------------------------------------

section Steps

variable {σ : Type} [Canvas σ] {s t : σ} {origin : Point} {tick : Tick} {e e' : Element}

/-- An element that is dirty after it followed the pointer draws itself and is clean. -/
theorem ends_step_of_dirty (h : (e.followed origin tick).state.dirty = true) :
    (e.step origin tick).Ends s e' t ↔
      e' = StepModel.next origin tick e ∧ ((e.followed origin tick).draw origin).Ends s () t := by
  cases e with
  | label l =>
    have hDirty : l.state.dirty = true := h
    simp only [step, Widget.step, Label.step, hDirty, if_true, Paint.ends_map, Paint.ends_bind,
      Paint.ends_pure]
    constructor
    · intro hEnds
      obtain ⟨_, ⟨_, _, hDraw, rfl, rfl⟩, rfl⟩ := hEnds
      exact ⟨rfl, hDraw⟩
    · intro hParts
      obtain ⟨rfl, hDraw⟩ := hParts
      exact ⟨_, ⟨(), t, hDraw, rfl, rfl⟩, rfl⟩
  | button b =>
    have hDirty : (b.track (b.state.globalBounds origin) tick.pointer).1.state.dirty = true := h
    have hArea : (b.track (b.state.globalBounds origin) tick.pointer).1.state.globalBounds origin =
        b.state.globalBounds origin := globalBounds_followed origin origin tick (button b)
    simp only [step, Widget.step, Button.step, hDirty, if_true, Paint.ends_map, Paint.ends_bind,
      Paint.ends_report, Paint.ends_pure, followed, draw, hArea]
    constructor
    · intro hEnds
      obtain ⟨_, ⟨_, _, rfl, _, _, hDraw, rfl, rfl⟩, rfl⟩ := hEnds
      exact ⟨rfl, hDraw⟩
    · intro hParts
      obtain ⟨rfl, hDraw⟩ := hParts
      exact ⟨_, ⟨(), s, rfl, (), t, hDraw, rfl, rfl⟩, rfl⟩

/-- An element that is still clean after it followed the pointer draws nothing. -/
theorem ends_step_of_clean (h : (e.followed origin tick).state.dirty = false) :
    (e.step origin tick).Ends s e' t ↔ e' = StepModel.next origin tick e ∧ t = s := by
  have hNext : StepModel.next origin tick e = e.followed origin tick :=
    mapState_clearDirty_of_clean h
  rw [hNext]
  cases e with
  | label l =>
    have hClean : l.state.dirty = false := h
    simp only [step, Widget.step, Label.step, hClean, Bool.false_eq_true, if_false,
      Paint.ends_map, Paint.ends_pure]
    constructor
    · intro hEnds
      obtain ⟨_, ⟨rfl, rfl⟩, rfl⟩ := hEnds
      exact ⟨rfl, rfl⟩
    · intro hParts
      obtain ⟨rfl, rfl⟩ := hParts
      exact ⟨l, ⟨rfl, rfl⟩, rfl⟩
  | button b =>
    have hClean : (b.track (b.state.globalBounds origin) tick.pointer).1.state.dirty = false := h
    simp only [step, Widget.step, Button.step, hClean, Bool.false_eq_true, if_false,
      Paint.ends_map, Paint.ends_bind, Paint.ends_report, Paint.ends_pure]
    constructor
    · intro hEnds
      obtain ⟨_, ⟨_, _, rfl, rfl, rfl⟩, rfl⟩ := hEnds
      exact ⟨rfl, rfl⟩
    · intro hParts
      obtain ⟨rfl, rfl⟩ := hParts
      exact ⟨_, ⟨(), t, rfl, rfl, rfl⟩, rfl⟩

end Steps

/-- Labels and buttons are stepped as described. -/
theorem sound (e : Element) : StepModel.Sound e where
  next_of_ends {σ _ origin tick s t e'} h := by
    cases hDirty : (e.followed origin tick).state.dirty with
    | true => exact ((ends_step_of_dirty hDirty).mp h).1
    | false => exact ((ends_step_of_clean hDirty).mp h).1
  ends_step {σ _ _ origin tick s t e'} := by
    simp only [StepModel.Drawable, StepModel.drawing]
    cases hDirty : (e.followed origin tick).state.dirty with
    | true =>
      simp only [if_true, forall_const, ← globalBounds_followed origin origin tick e, ← ends_draw]
      exact ends_step_of_dirty hDirty
    | false =>
      simp only [Bool.false_eq_true, if_false, false_implies, true_and, Primitive.ends_drawAll_nil]
      exact ends_step_of_clean hDirty

end Element

/-- What a step makes of a button. -/
theorem Button.eq_of_ends_step {σ : Type} [Canvas σ] {origin : Point} {tick : Tick} {b b' : Button}
    {s t : σ} (h : (Widget.step origin tick b).Ends s b' t) :
    b' = Widget.clearDirty (b.track (b.state.globalBounds origin) tick.pointer).1 := by
  have hElement : (Widget.step origin tick (Element.button b)).Ends s (.button b') t :=
    Paint.ends_map.mpr ⟨b', h, rfl⟩
  exact Element.button.inj ((Element.sound _).next_of_ends hElement)

end TouchPanel
