import TouchPanel.Widget.Button
import TouchPanel.Widget.Label

/-!
# Elements

An element is a widget without children: a label or a button.
-/

namespace TouchPanel

/-- A label or a button. -/
inductive Element where
  | label (label : Label)
  | button (button : Button)
  deriving DecidableEq, Repr

namespace Element

/-- The label, if the element is one. -/
def label? : Element → Option Label
  | label l => some l
  | button _ => none

/-- The button, if the element is one. -/
def button? : Element → Option Button
  | label _ => none
  | button b => some b

/-- Changes the element if it is a button. -/
def mapButton (f : Button → Button) : Element → Element
  | label l => label l
  | button b => button (f b)

/-- What all widgets have in common. -/
def state : Element → WidgetState
  | label l => l.state
  | button b => b.state

/-- Changes the common state and nothing else. -/
def mapState (f : WidgetState → WidgetState) : Element → Element
  | label l => label (Widget.mapState f l)
  | button b => button (Widget.mapState f b)

@[simp] theorem state_mapState (f : WidgetState → WidgetState) (e : Element) :
    (e.mapState f).state = f e.state := by
  cases e <;> rfl

/-- The step of the label or the button. -/
def step {σ : Type} [Canvas σ] (origin : Point) (tick : Tick) : Element → Paint σ Element
  | label l => label <$> Widget.step origin tick l
  | button b => button <$> Widget.step origin tick b

instance : Widget Element where
  state := state
  mapState := mapState
  step := step

end Element

end TouchPanel
