import TouchPanel.Style
import TouchPanel.Widget.Basic

/-!
# Windows

A window is a widget that owns other widgets, up to a fixed number of them. A child is named by
its slot, the number of children that were added before it. In a step,

1. a window that is dirty paints its ground and border, makes all of its children dirty and is
   clean from then on;
2. every visible child is stepped, in the order of the slots.
-/

namespace TouchPanel

/-- The name of a child in its window. -/
structure ChildId where
  slot : Nat
  deriving DecidableEq, Repr

/-- A widget that owns up to `capacity` children. -/
structure Window (α : Type) where
  state : WidgetState
  style : Style
  capacity : Nat
  /-- The children in the order of their slots. -/
  children : List α

namespace Window

variable {α σ : Type}

/-- A window without children. -/
def new (rect : Rect) (style : Style) (capacity : Nat) : Window α :=
  { state := .ofRect rect, style, capacity, children := [] }

/-! ## Children -/

/-- Adds a child if a slot is free. -/
def tryAdd (w : Window α) (child : α) : Except AssemblyError (ChildId × Window α) :=
  if w.children.length < w.capacity then
    .ok (⟨w.children.length⟩, { w with children := w.children ++ [child] })
  else
    .error (.capacityExceeded w.capacity)

/-- Adds a child, for which a slot has to be free. -/
def add (w : Window α) (child : α) : Except Fault (ChildId × Window α) :=
  (w.tryAdd child).mapError .assembly

/-- The child of a name, if the window has one. -/
def child? (w : Window α) (id : ChildId) : Option α := w.children[id.slot]?

/-- Changes the child of a name, if the window has one. -/
def modifyChild (w : Window α) (id : ChildId) (f : α → α) : Window α :=
  { w with children := w.children.modify id.slot f }

/-- Changes all children. -/
def mapChildren (w : Window α) (f : α → α) : Window α :=
  { w with children := w.children.map f }

/-- Changes the style and asks for a redraw. -/
def setStyle (w : Window α) (style : Style) : Window α :=
  { w with style, state := w.state.markDirty }

/-! ## Steps -/

/-- Paints the ground and the border of a window that lies at `origin` on the screen. -/
def redraw [Canvas σ] (w : Window α) (origin : Point) : Paint σ Unit := do
  let area := Rect.ofCorner origin w.state.size
  Paint.report [.windowRedrawn area]
  Canvas.drawRect area w.style.mainColor
  if 0 < w.style.frameThickness then
    Canvas.drawFrame area w.style.frameThickness w.style.frameColor

/-- Steps the visible ones among children that have the slots from `slot` on. -/
def stepChildren [Widget α] [Canvas σ] (origin : Point) (tick : Tick) :
    Nat → List α → Paint σ (List α)
  | _, [] => return []
  | slot, child :: rest => do
      let child ←
        if (Widget.state child).visible then do
          Paint.report [.childStepped slot]
          Widget.step origin tick child
        else
          pure child
      let rest ← stepChildren origin tick (slot + 1) rest
      return child :: rest

/-- Repaints the window if it is dirty, and then steps its visible children. -/
def step [Widget α] [Canvas σ] (origin : Point) (tick : Tick) (w : Window α) :
    Paint σ (Window α) := do
  let origin := w.state.globalPosition origin
  if w.state.dirty then
    w.redraw origin
    let children ← stepChildren origin tick 0 (w.children.map Widget.markDirty)
    return { w with state := w.state.clearDirty, children }
  else
    let children ← stepChildren origin tick 0 w.children
    return { w with children }

instance [Widget α] : Widget (Window α) where
  state := state
  mapState f w := { w with state := f w.state }
  step := step

end Window

end TouchPanel
