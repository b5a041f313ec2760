import TouchPanel.Canvas
import TouchPanel.Proofs.Ends

/-!
# Drawings

What a step draws is a list of primitives, and it can be said without a canvas once it is known
how texts are measured. This works on a canvas whose measure does not change while it is drawn on
(`SteadyCanvas`), which is true of a `Recorder` and of a `Screen`.

`Primitive.drawAll` is how such a list reaches a canvas. On a recorder it is the list that is
recorded (`Recorder.ends_drawAll`).

A canvas of another kind does not tell what was drawn on it. `Traced` puts a list beside any canvas,
and `Canvas.drawnBy` is what a computation draws on a canvas, whatever the canvas does with it.
-/

namespace TouchPanel

/-- How a canvas measures texts. -/
abbrev TextMeasure := String → Except Fault Size

/-- The size of a text, or nothing where it has none. -/
def TextMeasure.size (measure : TextMeasure) (text : String) : Size :=
  match measure text with
  | .ok size => size
  | .error _ => ⟨0, 0⟩

theorem TextMeasure.size_of_ok {measure : TextMeasure} {text : String} {size : Size}
    (h : measure text = .ok size) : measure.size text = size := by
  rw [TextMeasure.size, h]

namespace Primitive

variable {σ : Type} [Canvas σ]

/-- Draws one thing. -/
def draw : Primitive → Paint σ Unit
  | .rect area color => Canvas.drawRect area color
  | .frame area thickness color => Canvas.drawFrame area thickness color
  | .text corner content color => discard <| Canvas.drawText corner content color

/-- Draws things one after the other. -/
def drawAll (drawing : List Primitive) : Paint σ Unit := Paint.forEach drawing draw

theorem ends_drawAll_nil {s t : σ} : (drawAll []).Ends s () t ↔ t = s :=
  Paint.ends_forEach_nil

theorem ends_drawAll_cons {first : Primitive} {rest : List Primitive} {s u : σ} :
    (drawAll (first :: rest)).Ends s () u ↔
      ∃ t, first.draw.Ends s () t ∧ (drawAll rest).Ends t () u :=
  Paint.ends_forEach_cons

theorem ends_drawAll_append {first second : List Primitive} {s u : σ} :
    (drawAll (first ++ second)).Ends s () u ↔
      ∃ t, (drawAll first).Ends s () t ∧ (drawAll second).Ends t () u :=
  Paint.ends_forEach_append

end Primitive

-- ---------------------------------------------------------------------------
-- Steady canvases
-- ---------------------------------------------------------------------------

/-- A canvas on which nothing that is drawn changes the size of a text. -/
class SteadyCanvas (σ : Type) [Canvas σ] : Prop where
  textSize_draw {p : Primitive} {s t : σ} :
    p.draw.Ends s () t → Canvas.textSize t = Canvas.textSize s

theorem Primitive.textSize_drawAll {σ : Type} [Canvas σ] [SteadyCanvas σ]
    {drawing : List Primitive} {s t : σ} (h : (drawAll drawing).Ends s () t) :
    Canvas.textSize t = Canvas.textSize s := by
  induction drawing generalizing s with
  | nil => rw [ends_drawAll_nil.mp h]
  | cons first rest ih =>
    obtain ⟨u, hFirst, hRest⟩ := ends_drawAll_cons.mp h
    rw [ih hRest, SteadyCanvas.textSize_draw hFirst]

theorem Canvas.ends_measure {σ : Type} [Canvas σ] {text : String} {s t : σ} {size : Size} :
    (Canvas.measure text).Ends s size t ↔ Canvas.textSize s text = .ok size ∧ t = s := by
  rw [Canvas.measure, Paint.ends_bind]
  simp only [Paint.ends_read, Paint.ends_lift]
  constructor
  · intro hEnds
    obtain ⟨_, _, ⟨rfl, rfl⟩, h⟩ := hEnds
    exact h
  · intro h
    exact ⟨_, s, ⟨rfl, rfl⟩, h⟩

-- ---------------------------------------------------------------------------
-- Recorders
-- ---------------------------------------------------------------------------

namespace Recorder

theorem ends_draw {p : Primitive} {s t : Recorder} :
    p.draw.Ends s () t ↔ t = { s with drawn := s.drawn ++ [p] } := by
  cases p with
  | rect | frame => exact Paint.ends_update
  | text corner text color =>
    rw [Primitive.draw, Paint.ends_discard]
    simp only [Canvas.drawText, record, Paint.ends_bind, Paint.ends_update, Paint.ends_pure]
    constructor
    · intro hEnds
      obtain ⟨_, _, _, rfl, -, rfl⟩ := hEnds
      rfl
    · rintro rfl
      exact ⟨_, (), _, rfl, rfl, rfl⟩

/-- What is drawn is recorded, in order. -/
theorem ends_drawAll {drawing : List Primitive} {s t : Recorder} :
    (Primitive.drawAll drawing).Ends s () t ↔ t = { s with drawn := s.drawn ++ drawing } := by
  induction drawing generalizing s with
  | nil => simp [Primitive.ends_drawAll_nil]
  | cons first rest ih =>
    rw [Primitive.ends_drawAll_cons]
    simp only [ends_draw, ih]
    constructor
    · intro hEnds
      obtain ⟨_, rfl, rfl⟩ := hEnds
      simp
    · rintro rfl
      exact ⟨_, rfl, by simp⟩

instance : SteadyCanvas Recorder where
  textSize_draw h := by
    rw [ends_draw] at h
    rw [h]
    rfl

end Recorder

-- ---------------------------------------------------------------------------
-- Traced canvases
-- ---------------------------------------------------------------------------

/-- A canvas and the things drawn on it, the first first. -/
structure Traced (σ : Type) where
  canvas : σ
  drawn : List Primitive

namespace Traced

variable {σ α : Type}

/-- Draws one thing on the canvas and notes it. -/
def noting (p : Primitive) (m : Paint σ α) : Paint (Traced σ) α := fun traced =>
  match m traced.canvas with
  | .done a canvas events => .done a ⟨canvas, traced.drawn ++ [p]⟩ events
  | .faulted fault canvas events => .faulted fault ⟨canvas, traced.drawn ++ [p]⟩ events

instance [Canvas σ] : Canvas (Traced σ) where
  bounds traced := Canvas.bounds traced.canvas
  textSize traced := Canvas.textSize traced.canvas
  drawRect area color := noting (.rect area color) (Canvas.drawRect area color)
  drawFrame area thickness color :=
    noting (.frame area thickness color) (Canvas.drawFrame area thickness color)
  drawText corner text color :=
    noting (.text corner text color) (Canvas.drawText corner text color)

end Traced

/-- What a computation draws on a canvas, in order. -/
def Canvas.drawnBy {σ α : Type} [Canvas σ] (m : {τ : Type} → [Canvas τ] → Paint τ α) (s : σ) :
    List Primitive :=
  (m.run (⟨s, []⟩ : Traced σ)).surface.drawn

end TouchPanel
