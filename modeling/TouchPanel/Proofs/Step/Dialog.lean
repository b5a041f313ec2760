import TouchPanel.Dialog.Modal
import TouchPanel.Proofs.Step.Window

/-!
# Steps of modal dialogs

A resolved dialog is not stepped at all. An unresolved one is stepped as its window is, and then
the clicks are looked through, which draws nothing.

* `ModalDialog.collected` — what the look through the clicks leaves.
* `ModalDialog.sound`     — dialogs are stepped as described.
-/

namespace TouchPanel

namespace ModalDialog

variable {O σ : Type}

/-- The dialog after its clicks were looked through. -/
def collected (d : ModalDialog O) : ModalDialog O :=
  match d.clickedBinding? with
  | none => d
  | some (id, outcome) =>
      { d.mapButton id fun b => b.takeClick.2 with outcome := some outcome }

theorem ends_collect [OutcomeLabel O] {d d' : ModalDialog O} {s t : σ} :
    (collect d : Paint σ (ModalDialog O)).Ends s d' t ↔ d' = d.collected ∧ t = s := by
  unfold collect collected
  cases d.clickedBinding? with
  | none => exact Paint.ends_pure
  | some binding =>
    simp only [Paint.ends_bind, Paint.ends_report, Paint.ends_pure]
    constructor
    · intro hEnds
      obtain ⟨_, _, rfl, rfl, rfl⟩ := hEnds
      exact ⟨rfl, rfl⟩
    · intro hParts
      obtain ⟨rfl, rfl⟩ := hParts
      exact ⟨(), t, rfl, rfl, rfl⟩

instance : StepModel (ModalDialog O) where
  next origin tick d :=
    if d.outcome.isSome then d
    else ({ d with window := StepModel.next origin tick d.window } : ModalDialog O).collected
  drawing measure origin tick d :=
    if d.outcome.isSome then [] else StepModel.drawing measure origin tick d.window
  Drawable measure origin tick d :=
    d.outcome.isSome = false → StepModel.Drawable measure origin tick d.window

section Step

variable [OutcomeLabel O] [Canvas σ] {origin : Point} {tick : Tick} {d d' : ModalDialog O}
  {s t : σ}

theorem ends_step_of_resolved (h : d.outcome.isSome = true) :
    (d.step origin tick).Ends s d' t ↔ d' = d ∧ t = s := by
  rw [step, if_pos h, Paint.ends_pure]

theorem ends_step_of_unresolved (h : d.outcome.isSome = false) :
    (d.step origin tick).Ends s d' t ↔
      ∃ window, (d.window.step origin tick).Ends s window t ∧
        d' = ({ d with window } : ModalDialog O).collected := by
  rw [step, if_neg (by simp [h])]
  simp only [Paint.ends_bind, ends_collect]
  constructor
  · intro hEnds
    obtain ⟨window, _, hWindow, rfl, rfl⟩ := hEnds
    exact ⟨window, hWindow, rfl⟩
  · intro hParts
    obtain ⟨window, hWindow, rfl⟩ := hParts
    exact ⟨window, t, hWindow, rfl, rfl⟩

end Step

/-- Dialogs are stepped as described. -/
theorem sound [OutcomeLabel O] (d : ModalDialog O) : StepModel.Sound d where
  next_of_ends {σ _ origin tick s t d'} h := by
    cases hOutcome : d.outcome.isSome with
    | true =>
      simp only [StepModel.next, hOutcome, if_true]
      exact ((ends_step_of_resolved hOutcome).mp h).1
    | false =>
      obtain ⟨window, hWindow, rfl⟩ := (ends_step_of_unresolved hOutcome).mp h
      simp only [StepModel.next, hOutcome, Bool.false_eq_true, if_false]
      rw [d.window.sound_of_elements.next_of_ends hWindow]
      rfl
  ends_step {σ _ _ origin tick s t d'} := by
    cases hOutcome : d.outcome.isSome with
    | true =>
      simp only [StepModel.next, StepModel.Drawable, StepModel.drawing, hOutcome, if_true,
        reduceCtorEq, false_implies, true_and, Primitive.ends_drawAll_nil]
      exact ends_step_of_resolved hOutcome
    | false =>
      refine (ends_step_of_unresolved hOutcome).trans ?_
      have hWindow {window : Window Element} : (d.window.step origin tick).Ends s window t ↔
          window = StepModel.next origin tick d.window ∧
            StepModel.Drawable (Canvas.textSize s) origin tick d.window ∧
            (Primitive.drawAll (StepModel.drawing (Canvas.textSize s) origin tick
              d.window)).Ends s () t :=
        d.window.sound_of_elements.ends_step
      simp only [hWindow]
      simp only [StepModel.next, StepModel.Drawable, StepModel.drawing, hOutcome,
        Bool.false_eq_true, if_false, forall_const]
      constructor
      · intro hStep
        obtain ⟨_, ⟨rfl, hDrawable, hDrawing⟩, rfl⟩ := hStep
        exact ⟨rfl, hDrawable, hDrawing⟩
      · intro hParts
        obtain ⟨rfl, hDrawable, hDrawing⟩ := hParts
        exact ⟨_, ⟨rfl, hDrawable, hDrawing⟩, rfl⟩

-- ---------------------------------------------------------------------------
-- Buttons of a dialog
-- ---------------------------------------------------------------------------

/-- A button after its turn in a step of the window. -/
def turned (place : Point) (tick : Tick) (b : Button) : Button :=
  if b.state.visible then
    Widget.clearDirty (b.track (b.state.globalBounds place) tick.pointer).1
  else b

section Turned

variable (place : Point) (tick : Tick) (b : Button)

/-- A turn moves no button and neither shows nor hides it. -/
theorem state_turned :
    (turned place tick b).state = { b.state with dirty := (turned place tick b).state.dirty } := by
  unfold turned
  split
  · show WidgetState.clearDirty (b.track _ _).1.state = _
    rw [Button.track_eq]
    rfl
  · rfl

/-- The turn of a button latches a click if the button is visible and pressed, and the pointer is
lifted. -/
theorem clicked_turned :
    (turned place tick b).clicked =
      (b.clicked || (b.state.visible && (tick.pointer.isNone && b.pressed))) := by
  unfold turned
  split
  · rename_i hVisible
    show (b.track _ _).1.clicked = _
    rw [Button.clicked_track, hVisible, Bool.true_and]
  · rename_i hHidden
    rw [Bool.eq_false_iff.mpr hHidden, Bool.false_and, Bool.or_false]

end Turned

theorem button?_nextChild (place : Point) (tick : Tick) (e : Element) :
    (Window.nextChild place tick e).button? = e.button?.map (turned place tick) := by
  unfold Window.nextChild
  cases e with
  | label l => split <;> rfl
  | button b =>
    by_cases hVisible : b.state.visible = true
    · rw [if_pos (show (Widget.state (Element.button b)).visible = true from hVisible)]
      simp only [Element.button?, Option.map_some, turned, if_pos hVisible]
      rfl
    · rw [if_neg (show ¬(Widget.state (Element.button b)).visible = true from hVisible)]
      simp only [Element.button?, Option.map_some, turned, if_neg hVisible]

theorem button?_markDirty (e : Element) :
    (Widget.markDirty e).button? = e.button?.map Widget.markDirty := by
  cases e <;> rfl

/-- The button of a name is stepped like any child of the window. -/
theorem button?_next (d : ModalDialog O) (origin : Point) (tick : Tick) (id : ChildId) :
    ({ d with window := StepModel.next origin tick d.window } : ModalDialog O).button? id =
      (d.button? id).map fun b => turned (d.window.state.globalPosition origin) tick
        (if d.window.state.dirty then Widget.markDirty b else b) := by
  simp only [button?, Window.child?, StepModel.next, List.getElem?_map, Window.marked]
  cases hDirty : d.window.state.dirty with
  | true =>
    simp only [if_true, List.getElem?_map]
    cases d.window.children[id.slot]? with
    | none => rfl
    | some e =>
      simp only [Option.map_some, Option.bind_some, button?_nextChild, button?_markDirty]
      cases e <;> rfl
  | false =>
    simp only [Bool.false_eq_true, if_false]
    cases d.window.children[id.slot]? with
    | none => rfl
    | some e => exact button?_nextChild _ _ e

end ModalDialog

end TouchPanel
