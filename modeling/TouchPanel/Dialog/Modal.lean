import TouchPanel.Widget.Element
import TouchPanel.Widget.Window

/-!
# Modal dialogs

A modal dialog is a window of labels and buttons in which some buttons are bound to outcomes. It
is resolved by the first click on a bound button, and from then on no step changes it.
-/

namespace TouchPanel

/-- A type of outcomes with the labels that log lines show. -/
class OutcomeLabel (O : Type) where
  label : O → String

instance : OutcomeLabel UInt32 where
  label outcome := toString outcome.toNat

/-- A window that is resolved to an outcome of type `O`. -/
structure ModalDialog (O : Type) where
  window : Window Element
  /-- The buttons that resolve the dialog, in the order in which they were bound. -/
  bindings : List (ChildId × O)
  /-- The outcome, once the dialog is resolved. -/
  outcome : Option O

namespace ModalDialog

variable {O σ : Type}

/-- A dialog without children. It has room for `capacity` children and as many bindings. -/
def new (rect : Rect) (style : Style) (capacity : Nat) : ModalDialog O :=
  { window := .new rect style capacity, bindings := [], outcome := none }

/-- What all widgets have in common, which is that of the window. -/
def state (d : ModalDialog O) : WidgetState := d.window.state

/-- Changes the common state and nothing else. -/
def mapState (f : WidgetState → WidgetState) (d : ModalDialog O) : ModalDialog O :=
  { d with window := Widget.mapState f d.window }

/-! ## Assembly -/

/-- Adds a child if a slot is free. -/
def tryAdd (d : ModalDialog O) (child : Element) :
    Except AssemblyError (ChildId × ModalDialog O) := do
  let (id, window) ← d.window.tryAdd child
  return (id, { d with window })

/-- Adds a child, for which a slot has to be free. -/
def add (d : ModalDialog O) (child : Element) : Except Fault (ChildId × ModalDialog O) :=
  (d.tryAdd child).mapError .assembly

/-- The button of a name, if there is one. -/
def button? (d : ModalDialog O) (id : ChildId) : Option Button :=
  (d.window.child? id).bind Element.button?

/-- Changes the button of a name, if there is one. -/
def mapButton (d : ModalDialog O) (id : ChildId) (f : Button → Button) : ModalDialog O :=
  { d with window := d.window.modifyChild id (.mapButton f) }

/-- Lets a click on a button resolve the dialog. -/
def bind (d : ModalDialog O) (id : ChildId) (outcome : O) :
    Except AssemblyError (ModalDialog O) :=
  if (d.button? id).isNone then
    .error (.unknownChild id.slot)
  else if d.bindings.length < d.window.capacity then
    .ok { d with bindings := d.bindings ++ [(id, outcome)] }
  else
    .error (.capacityExceeded d.window.capacity)

/-! ## Steps -/

/-- The earliest of the bindings whose button has a click latched. -/
def clickedBinding? (d : ModalDialog O) : Option (ChildId × O) :=
  d.bindings.find? fun binding => (d.button? binding.1).any Button.clicked

/-- Takes the click of the earliest of the bindings whose button has one, and records its
outcome. -/
def collect [OutcomeLabel O] (d : ModalDialog O) : Paint σ (ModalDialog O) := do
  match d.clickedBinding? with
  | none => return d
  | some (id, outcome) =>
      Paint.report [.dialogResolved (OutcomeLabel.label outcome)]
      return { d.mapButton id fun b => b.takeClick.2 with outcome := some outcome }

/-- One step of an unresolved dialog: the window is stepped and then the clicks are looked
through. A resolved dialog ignores ticks. -/
def step [OutcomeLabel O] [Canvas σ] (origin : Point) (tick : Tick) (d : ModalDialog O) :
    Paint σ (ModalDialog O) := do
  if d.outcome.isSome then
    return d
  else
    let window ← d.window.step origin tick
    collect { d with window }

instance [OutcomeLabel O] : Widget (ModalDialog O) where
  state := state
  mapState := mapState
  step := step

end ModalDialog

end TouchPanel
