import TouchPanel.Style
import TouchPanel.Widget.Basic

/-!
# Labels

A label shows a text of one line on a plain ground, at its left edge and halfway down.
-/

namespace TouchPanel

/-- A widget that shows a text. -/
structure Label where
  state : WidgetState
  text : String
  background : Color
  color : Color
  deriving DecidableEq, Repr

namespace Label

/-- A label with the ground and the text colour of a style. -/
def new (rect : Rect) (text : String) (style : Style) : Label :=
  { state := .ofRect rect, text, background := style.mainColor, color := style.textColor }

/-- Shows another text. -/
def setText (l : Label) (text : String) : Label :=
  { l with text, state := l.state.markDirty }

/-- Draws the label, given the place of its owner. -/
def draw {σ : Type} [Canvas σ] (origin : Point) (l : Label) : Paint σ Unit := do
  let area := l.state.globalBounds origin
  Canvas.drawRect area l.background
  let size ← Canvas.measure l.text
  let y ← area.y.addExact (area.height.subSat size.height / 2)
  discard <| Canvas.drawText ⟨area.x, y⟩ l.text l.color

/-- A label draws itself when it is dirty, and does nothing else. -/
def step {σ : Type} [Canvas σ] (origin : Point) (l : Label) : Paint σ Label := do
  if l.state.dirty then
    l.draw origin
    return { l with state := l.state.clearDirty }
  else
    return l

instance : Widget Label where
  state := state
  mapState f l := { l with state := f l.state }
  step origin _ l := l.step origin

end Label

end TouchPanel
