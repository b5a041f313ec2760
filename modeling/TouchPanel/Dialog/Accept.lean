import TouchPanel.Dialog.Exec

/-!
# Accept dialogs

An accept dialog shows a question above two buttons of equal size. It is resolved to the answer
of the button that is clicked.

```text
+--------------------------+
| question                 |
|                          |
| [   yes    ] [    no   ] |
+--------------------------+
```
-/

namespace TouchPanel

/-- The answer to an accept dialog. -/
inductive Answer where
  | no
  | yes
  deriving DecidableEq, Repr

/-- The label of an answer in a log line. -/
def Answer.label : Answer → String
  | .no => "No"
  | .yes => "Yes"

instance : OutcomeLabel Answer := ⟨Answer.label⟩

/-- A dialog that asks for a yes or a no. -/
structure AcceptDialog where
  dialog : ModalDialog Answer
  /-- The name of the question. -/
  info : ChildId
  /-- The name of the left button. -/
  yes : ChildId
  /-- The name of the right button. -/
  no : ChildId

namespace AcceptDialog

variable {σ : Type}

/-- The number of children that the dialog has room for. -/
def capacity : Nat := 4

/-! ## Placement -/

/-- The usual area on a screen: in the middle, three quarters as wide and half as tall. -/
def layout (screen : Rect) : Except Fault Rect := do
  let tripled ← screen.width.mulExact 3
  return screen.centered ⟨tripled / 4, screen.height / 2⟩

/-- The areas of the children in a dialog. -/
structure Places where
  info : Rect
  yes : Rect
  no : Rect
  deriving DecidableEq, Repr

/-- The buttons take the lower third of what is inside the border and the padding, side by side
with a padding between them; the question takes what is above them, less a padding. -/
def Places.within (size : Size) (style : Style) : Except Fault Places := do
  let border ← style.frameThickness.addExact style.padding
  let inner := (Rect.ofCorner .zero size).inset border
  let buttonHeight := inner.height / 3
  let buttonWidth := inner.width.subSat style.padding / 2
  let buttonY ← inner.bottom.subExact buttonHeight
  let infoHeight := (inner.height.subSat buttonHeight).subSat style.padding
  let noX ← inner.right.subExact buttonWidth
  return { info := ⟨inner.x, inner.y, inner.width, infoHeight⟩
           yes := ⟨inner.x, buttonY, buttonWidth, buttonHeight⟩
           no := ⟨noX, buttonY, buttonWidth, buttonHeight⟩ }

/-! ## Assembly -/

/-- Lets the buttons give their answers. They were just added, so neither is refused. -/
def bindButtons (d : AcceptDialog) : Except Fault AcceptDialog := do
  let bound := do
    let dialog ← d.dialog.bind d.yes .yes
    dialog.bind d.no .no
  let dialog ← bound.mapError fun _ => .assertion "bound.is_ok()"
  return { d with dialog }

/-- The dialog in an area, with a question and two captions. -/
def new (area : Rect) (infoText yesText noText : String) (style : Style) :
    Except Fault AcceptDialog := do
  let dialog := ModalDialog.new area style capacity
  let places ← Places.within area.size style
  let (info, dialog) ← dialog.add (.label (.new places.info infoText style))
  let (yes, dialog) ← dialog.add (.button (.new places.yes yesText style))
  let (no, dialog) ← dialog.add (.button (.new places.no noText style))
  bindButtons { dialog, info, yes, no }

/-! ## Use -/

/-- The question. -/
def infoLabel? (d : AcceptDialog) : Option Label :=
  (d.dialog.window.child? d.info).bind Element.label?

/-- The left button. -/
def yesButton? (d : AcceptDialog) : Option Button := d.dialog.button? d.yes

/-- The right button. -/
def noButton? (d : AcceptDialog) : Option Button := d.dialog.button? d.no

/-- The area of a child on the screen. -/
def childArea (d : AcceptDialog) (id : ChildId) : Rect :=
  (d.dialog.window.child? id).elim .zero fun child =>
    child.state.globalBounds d.dialog.state.position

/-- The area of the left button on the screen. -/
def yesArea (d : AcceptDialog) : Rect := d.childArea d.yes

/-- The area of the right button on the screen. -/
def noArea (d : AcceptDialog) : Rect := d.childArea d.no

/-- One step of the dialog. -/
def step [Canvas σ] (origin : Point) (tick : Tick) (d : AcceptDialog) : Paint σ AcceptDialog :=
  (fun dialog => { d with dialog }) <$> d.dialog.step origin tick

/-- Starts the dialog afresh and feeds it ticks until it is resolved. -/
def run [Canvas σ] (ticks : List Tick) (d : AcceptDialog) :
    Paint σ (AcceptDialog × ModalDialog.ExecResult Answer) := do
  let (dialog, result) ← d.dialog.exec ticks
  return ({ d with dialog }, result)

/-- Asks a question in the usual area of a canvas. -/
def exec [Canvas σ] (infoText yesText noText : String) (style : Style) (ticks : List Tick) :
    Paint σ (ModalDialog.ExecResult Answer) := do
  let area ← layout (← Paint.read Canvas.bounds)
  let dialog ← new area infoText yesText noText style
  let (_, result) ← dialog.run ticks
  return result

end AcceptDialog

end TouchPanel
