import TouchPanel.Widget.Basic
import TouchPanel.Proofs.Step.Drawing

/-!
# Steps without a canvas

A step of a widget does two things: it turns the widget into another one, and it draws. Neither
needs a canvas to be described. What becomes of the widget depends on the place of its owner and
on the tick alone, and what is drawn depends on these and on how texts are measured.

`StepModel` is such a description for a type of widgets, and `StepModel.Sound` says of one widget
that its steps are as described:

* on every canvas, a step that ends leaves the widget that the description gives (`next_of_ends`);
* on a steady canvas, a step ends exactly when the texts of the drawing have their sizes and
  places and the drawing itself ends, and it does to the canvas what the drawing does
  (`ends_step`).
-/

namespace TouchPanel

/-- What a step of a widget comes to, said without a canvas. All functions take the place of the
owner and the tick. -/
class StepModel (α : Type) where
  /-- The widget after the step. -/
  next : Point → Tick → α → α
  /-- What the step draws, given the measure of texts. -/
  drawing : TextMeasure → Point → Tick → α → List Primitive
  /-- Every text of the drawing has a size and a place in the plane. -/
  Drawable : TextMeasure → Point → Tick → α → Prop

/-- The steps of a widget are as described. -/
structure StepModel.Sound {α : Type} [Widget α] [StepModel α] (w : α) : Prop where
  next_of_ends {σ : Type} [Canvas σ] {origin : Point} {tick : Tick} {s t : σ} {w' : α} :
    (Widget.step origin tick w).Ends s w' t → w' = next origin tick w
  ends_step {σ : Type} [Canvas σ] [SteadyCanvas σ] {origin : Point} {tick : Tick} {s t : σ}
      {w' : α} :
    (Widget.step origin tick w).Ends s w' t ↔
      w' = next origin tick w ∧ Drawable (Canvas.textSize s) origin tick w ∧
        (Primitive.drawAll (drawing (Canvas.textSize s) origin tick w)).Ends s () t

end TouchPanel
