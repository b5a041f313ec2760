import TouchPanel.Proofs.Step.Stays

/-!
# What owners do to widgets

The owner of a widget may change its common state at any time, and there is more that it may do to a
label or a button. None of this draws.

* `StateEdit`       — a change of what all widgets have in common.
* `ChildEdit`       — a change of a label or a button.
* `Element.Flagged` — a change of an element that is not seen, or else makes it dirty.
-/

namespace TouchPanel

/-- What the owner of a widget does to its common state. -/
inductive StateEdit where
  | moveTo (position : Point)
  | resize (size : Size)
  | setVisible (visible : Bool)
  | markDirty
  | clearDirty

namespace StateEdit

/-- The common state after the edit. -/
def apply : StateEdit → WidgetState → WidgetState
  | moveTo position, state => state.moveTo position
  | resize size, state => state.resize size
  | setVisible visible, state => state.setVisible visible
  | markDirty, state => state.markDirty
  | clearDirty, state => state.clearDirty

end StateEdit

/-- What the owner of a window does to one of its children. Texts are for labels; clicks and
resets are for buttons. -/
inductive ChildEdit where
  | setText (text : String)
  | click
  | takeClick
  | reset
  | markDirty

namespace ChildEdit

/-- The child after the edit. -/
def apply : ChildEdit → Element → Element
  | setText text, .label l => .label (l.setText text)
  | setText _, .button b => .button b
  | click, e => e.mapButton .click
  | takeClick, e => e.mapButton fun b => b.takeClick.2
  | reset, e => e.mapButton fun b => b.reset.1
  | markDirty, e => Widget.markDirty e

/-- The events that the edit reports. -/
def events : ChildEdit → Element → List Event
  | reset, .button b => b.reset.2
  | _, _ => []

end ChildEdit

-- ---------------------------------------------------------------------------
-- What an edit keeps
-- ---------------------------------------------------------------------------

/-- A clean widget is visible and clean after an edit only if it is just as before. -/
theorem StateEdit.apply_eq_self {edit : StateEdit} {state : WidgetState}
    (hClean : state.visible = true → state.dirty = false)
    (hVisible : (edit.apply state).visible = true) (hStill : (edit.apply state).dirty = false) :
    edit.apply state = state := by
  cases edit with
  | moveTo position =>
    simp only [apply, WidgetState.moveTo] at hStill ⊢
    split at hStill
    · rename_i hSame
      exact if_pos hSame
    · cases hStill
  | resize size =>
    simp only [apply, WidgetState.resize] at hStill ⊢
    split at hStill
    · rename_i hSame
      exact if_pos hSame
    · cases hStill
  | setVisible visible =>
    obtain rfl : visible = true := hVisible
    obtain ⟨hDirty, hShown⟩ := Bool.or_eq_false_iff.mp hStill
    have hSeen : state.visible = true := by simpa using hShown
    simp only [apply, WidgetState.setVisible, hSeen, Bool.not_true, Bool.and_false, Bool.or_false]
    rw [← hSeen]
  | markDirty => cases hStill
  | clearDirty =>
    have hDirty := hClean hVisible
    simp only [apply, WidgetState.clearDirty, ← hDirty]

/-- A change from `e` to `e'` that can be seen makes the element dirty, and no change makes it
clean. -/
structure Element.Flagged (e e' : Element) : Prop where
  stays : e.Stays e'
  clean : e'.state.dirty = false → e.state.dirty = false
  looks : e'.state.dirty = false → ∀ (measure : TextMeasure) (area : Rect),
    e'.picture measure area = e.picture measure area

theorem Element.Flagged.refl (e : Element) : e.Flagged e := ⟨.refl e, id, fun _ _ _ => rfl⟩

namespace ChildEdit

/-- **Edits that can be seen ask for a redraw.** -/
theorem flagged_apply (edit : ChildEdit) (e : Element) : e.Flagged (edit.apply e) := by
  cases edit with
  | setText text =>
    cases e with
    | label l => exact ⟨⟨rfl, rfl⟩, fun h => (nomatch h), fun h => (nomatch h)⟩
    | button b => exact .refl _
  | click =>
    cases e with
    | label l => exact .refl _
    | button b => exact ⟨⟨rfl, rfl⟩, id, fun _ _ _ => rfl⟩
  | takeClick =>
    cases e with
    | label l => exact .refl _
    | button b => exact ⟨⟨rfl, rfl⟩, id, fun _ _ _ => rfl⟩
  | reset =>
    cases e with
    | label l => exact .refl _
    | button b =>
      simp only [apply, Element.mapButton, Button.reset]
      cases hPressed : b.pressed with
      | true => exact ⟨⟨rfl, rfl⟩, fun h => (nomatch h), fun h => (nomatch h)⟩
      | false =>
        -- a button that is not pressed keeps its colour
        refine ⟨⟨rfl, rfl⟩, id, fun _ measure area => ?_⟩
        show [Primitive.rect _ (Button.fill _), _] = [Primitive.rect _ (Button.fill _), _]
        rw [Button.fill, Button.fill, hPressed]
        rfl
  | markDirty =>
    cases e with
    | label l => exact ⟨⟨rfl, rfl⟩, fun h => (nomatch h), fun h => (nomatch h)⟩
    | button b => exact ⟨⟨rfl, rfl⟩, fun h => (nomatch h), fun h => (nomatch h)⟩

/-- Only setting the text of a label changes the text of an element. -/
theorem text_apply (edit : ChildEdit) (e : Element) :
    (∃ text l, edit = .setText text ∧ e = .label l) ∨ (edit.apply e).text = e.text := by
  cases e with
  | label l =>
    cases edit with
    | setText text => exact .inl ⟨text, l, rfl, rfl⟩
    | _ => exact .inr rfl
  | button b =>
    right
    cases edit with
    | reset =>
      simp only [apply, Element.mapButton, Button.reset]
      split <;> rfl
    | _ => rfl

end ChildEdit

/-- No edit moves a child. -/
theorem Window.stays_edit (w : Window Element) (id : ChildId) (change : ChildEdit) :
    w.Stays (w.modifyChild id change.apply) :=
  w.stays_modifyChild id fun e => (change.flagged_apply e).stays

/-- No edit but that of a text changes what a child says. -/
theorem Window.persists_edit (w : Window Element) (id : ChildId) (change : ChildEdit)
    (hChange : ∀ text, change ≠ .setText text) : w.Persists (w.modifyChild id change.apply) := by
  refine w.persists_modifyChild id (fun e => (change.flagged_apply e).stays) fun e => ?_
  rcases change.text_apply e with ⟨text, l, hSet, -⟩ | hText
  · exact absurd hSet (hChange text)
  · exact hText

end TouchPanel
