import TouchPanel.Canvas

/-!
# Widgets

A widget has a place in its owner, can be hidden, and asks for a redraw by being dirty. Its owner
steps it once for every tick, unless it is hidden. `WidgetState` is what all widgets have in
common, `Tick` is the input of one step, and `Widget` is the class of types that can be stepped.
-/

namespace TouchPanel

/-! ## Ticks -/

/-- A quantum of time, and where the pointer is held down at its end, if it is. -/
structure Tick where
  /-- The milliseconds since the tick before. -/
  elapsed : UInt32
  pointer : Option Point
  deriving DecidableEq, Repr

/-! ## The state of a widget -/

/-- What all widgets have in common. -/
structure WidgetState where
  /-- The place of the upper left corner in the owner. -/
  position : Point
  size : Size
  /-- Whether the owner steps the widget. -/
  visible : Bool
  /-- Whether the widget draws itself in its next step. -/
  dirty : Bool
  deriving DecidableEq, Repr

namespace WidgetState

/-- A new widget is visible and dirty. -/
def ofRect (rect : Rect) : WidgetState :=
  { position := rect.topLeft, size := rect.size, visible := true, dirty := true }

/-- The area of the widget in its owner. -/
def bounds (s : WidgetState) : Rect := .ofCorner s.position s.size

/-- The place of the widget on the screen, given that of its owner. -/
def globalPosition (s : WidgetState) (origin : Point) : Point := s.position.offset origin

/-- The area of the widget on the screen, given the place of its owner. -/
def globalBounds (s : WidgetState) (origin : Point) : Rect := s.bounds.translate origin

/-- Asks for a redraw. -/
def markDirty (s : WidgetState) : WidgetState := { s with dirty := true }

/-- Drops a request for a redraw. -/
def clearDirty (s : WidgetState) : WidgetState := { s with dirty := false }

/-- Moves the widget. Only a new place asks for a redraw. -/
def moveTo (s : WidgetState) (position : Point) : WidgetState :=
  if s.position = position then s else { s with position, dirty := true }

/-- Changes the size of the widget. Only a new size asks for a redraw. -/
def resize (s : WidgetState) (size : Size) : WidgetState :=
  if s.size = size then s else { s with size, dirty := true }

/-- Shows or hides the widget. Showing a hidden widget asks for a redraw. -/
def setVisible (s : WidgetState) (visible : Bool) : WidgetState :=
  { s with visible, dirty := s.dirty || (visible && !s.visible) }

end WidgetState

/-! ## The class -/

/-- A type of widgets. -/
class Widget (α : Type) where
  state : α → WidgetState
  /-- Changes the common state and nothing else. -/
  mapState : (WidgetState → WidgetState) → α → α
  /-- One step, given the place of the owner on the screen. -/
  step : {σ : Type} → [Canvas σ] → Point → Tick → α → Paint σ α

namespace Widget

variable {α : Type} [Widget α]

/-- Asks for a redraw. -/
def markDirty (w : α) : α := mapState .markDirty w

/-- Drops a request for a redraw. -/
def clearDirty (w : α) : α := mapState .clearDirty w

/-- The area of the widget in its owner. -/
def bounds (w : α) : Rect := (state w).bounds

end Widget

end TouchPanel
