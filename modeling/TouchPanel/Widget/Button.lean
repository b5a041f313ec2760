import TouchPanel.Style
import TouchPanel.Widget.Basic

/-!
# Buttons

A button is pressed when the pointer is put down on it. Lifting the pointer there is a click;
moving it away from the button while it is down cancels the press. A click stays latched until
the owner takes it.

* `Button.track` follows the pointer.
* `Button.reset` forgets everything about it.
* `Button.step` does the first and then draws the button if it is dirty.
-/

namespace TouchPanel

/-- A widget that can be clicked. -/
structure Button where
  state : WidgetState
  text : String
  color : Color
  pressedColor : Color
  textColor : Color
  /-- The pointer was put down on the button and is still there. -/
  pressed : Bool
  /-- The pointer was down in the step before. -/
  pointerHeld : Bool
  /-- A click waits to be taken. -/
  clicked : Bool
  deriving DecidableEq, Repr

namespace Button

/-- A button with the colours of a style. -/
def new (rect : Rect) (text : String) (style : Style) : Button :=
  { state := .ofRect rect
    text
    color := style.buttonColor
    pressedColor := style.buttonPressedColor
    textColor := style.textColor
    pressed := false
    pointerHeld := false
    clicked := false }

/-! ## Input -/

/-- Latches a click without any pointer. -/
def click (b : Button) : Button := { b with clicked := true }

/-- Takes the click that is latched, if there is one. -/
def takeClick (b : Button) : Bool × Button := (b.clicked, { b with clicked := false })

/-- Drops a press in progress, the memory of the pointer and a latched click. -/
def reset (b : Button) : Button × List Event :=
  let calm := { b with pressed := false, pointerHeld := false, clicked := false }
  if b.pressed then
    ({ calm with state := b.state.markDirty }, [.inputReset b.text])
  else
    (calm, [])

/-- Follows the pointer over the area of the button. A pointer that was down already in the step
before cannot press it. -/
def track (area : Rect) (pointer : Option Point) (b : Button) : Button × List Event :=
  let next := { b with pointerHeld := pointer.isSome }
  match pointer with
  | some place =>
      if !b.pressed && !b.pointerHeld && area.contains place then
        ({ next with pressed := true, state := b.state.markDirty }, [.buttonPressed b.text])
      else if b.pressed && !area.contains place then
        ({ next with pressed := false, state := b.state.markDirty }, [.pressCancelled b.text])
      else
        (next, [])
  | none =>
      if b.pressed then
        ({ next with pressed := false, clicked := true, state := b.state.markDirty },
          [.buttonClicked b.text])
      else
        (next, [])

section Track

variable (area : Rect) (pointer : Option Point) (b : Button)

/-- Following the pointer changes only what is known of the pointer, and the dirty flag. -/
theorem track_eq :
    (b.track area pointer).1 =
      { b with
        state := { b.state with dirty := (b.track area pointer).1.state.dirty }
        pressed := (b.track area pointer).1.pressed
        pointerHeld := (b.track area pointer).1.pointerHeld
        clicked := (b.track area pointer).1.clicked } := by
  unfold track
  cases pointer with
  | none => cases b.pressed <;> rfl
  | some place =>
    simp only
    split
    · rfl
    · split <;> rfl

theorem pointerHeld_track : (b.track area pointer).1.pointerHeld = pointer.isSome := by
  unfold track
  cases pointer with
  | none => cases b.pressed <;> rfl
  | some place =>
    simp only
    split
    · rfl
    · split <;> rfl

/-- A button is pressed while the pointer is on it, if it was pressed before or the pointer is put
down in this step. -/
theorem pressed_track :
    (b.track area pointer).1.pressed =
      pointer.any fun place => (b.pressed || !b.pointerHeld) && area.contains place := by
  unfold track
  cases pointer with
  | none => cases hPressed : b.pressed <;> simp
  | some place =>
    cases hPressed : b.pressed <;> cases b.pointerHeld <;>
      cases hContains : area.contains place <;> simp [hContains]

/-- A click is latched by lifting the pointer from a pressed button, and by nothing else that the
pointer does. -/
theorem clicked_track :
    (b.track area pointer).1.clicked = (b.clicked || (pointer.isNone && b.pressed)) := by
  unfold track
  cases pointer with
  | none => cases b.pressed <;> simp
  | some place =>
    simp only [Option.isNone_some, Bool.false_and, Bool.or_false]
    split
    · rfl
    · split <;> rfl

/-- Following the pointer makes a button dirty exactly when it is pressed or no longer pressed. -/
theorem dirty_track :
    (b.track area pointer).1.state.dirty =
      (b.state.dirty || (b.track area pointer).1.pressed != b.pressed) := by
  unfold track
  cases pointer with
  | none => cases b.pressed <;> simp [WidgetState.markDirty]
  | some place =>
    simp only
    split
    · -- it is pressed
      rename_i hPress
      simp only [Bool.and_eq_true, Bool.not_eq_true'] at hPress
      simp [WidgetState.markDirty, hPress.1.1]
    · split
      · -- the press is cancelled
        rename_i hCancel
        simp only [Bool.and_eq_true, Bool.not_eq_true'] at hCancel
        simp [WidgetState.markDirty, hCancel.1]
      · simp

/-- Following a pointer that has not moved presses or releases nothing. -/
theorem pressed_track_of_tracked {b' : Button}
    (hPressed : b'.pressed = (b.track area pointer).1.pressed)
    (hHeld : b'.pointerHeld = (b.track area pointer).1.pointerHeld) :
    (b'.track area pointer).1.pressed = b'.pressed := by
  rw [pressed_track] at hPressed ⊢
  rw [pointerHeld_track] at hHeld
  cases pointer with
  | none => exact hPressed.symm
  | some place =>
    simp only [Option.any_some, Option.isSome_some] at hPressed hHeld ⊢
    rw [hHeld, hPressed]
    cases area.contains place <;> simp

/-- A button whose flags agree with the pointer already is not changed by following it. -/
theorem track_eq_self (hHeld : b.pointerHeld = pointer.isSome)
    (hPressed : b.pressed = true → pointer.any area.contains = true) :
    b.track area pointer = (b, []) := by
  have hSame : { b with pointerHeld := pointer.isSome } = b := by rw [← hHeld]
  unfold track
  rw [hSame]
  cases pointer with
  | none =>
    cases hDown : b.pressed with
    | true => cases hPressed hDown
    | false => rfl
  | some place =>
    simp only [Option.isSome_some] at hHeld
    cases hDown : b.pressed with
    | true =>
      have hInside : area.contains place = true := hPressed hDown
      simp [hInside]
    | false => simp [hHeld]

end Track

/-! ## Steps -/

/-- The ground of the button. -/
def fill (b : Button) : Color := if b.pressed then b.pressedColor else b.color

/-- Draws the button with its text in the middle, given its area on the screen. -/
def draw {σ : Type} [Canvas σ] (area : Rect) (b : Button) : Paint σ Unit := do
  Canvas.drawRect area b.fill
  let size ← Canvas.measure b.text
  let x ← area.x.addExact (area.width.subSat size.width / 2)
  let y ← area.y.addExact (area.height.subSat size.height / 2)
  discard <| Canvas.drawText ⟨x, y⟩ b.text b.textColor

/-- A button follows the pointer and then draws itself when it is dirty. -/
def step {σ : Type} [Canvas σ] (origin : Point) (tick : Tick) (b : Button) : Paint σ Button := do
  let area := b.state.globalBounds origin
  let (b, events) := b.track area tick.pointer
  Paint.report events
  if b.state.dirty then
    b.draw area
    return { b with state := b.state.clearDirty }
  else
    return b

instance : Widget Button where
  state := state
  mapState f b := { b with state := f b.state }
  step := step

end Button

end TouchPanel
