import TouchPanel.Tree
import TouchPanel.Proofs.Input.Stroke
import TouchPanel.Proofs.Step.Dialog

/-!
# Strokes on a button that is hidden at times

A window gives its ticks to visible children only. So a button does not see what the pointer does
while it is hidden, and it does not notice that it was: to the button, the first tick after it was
shown follows at once on the last tick before it was hidden. The strokes that it follows are put
together of the ticks that it saw.

* `HasButtons`           — the children of the window are buttons, or may be.
* `ButtonCall`           — what is done to the window and to a button in it.
* `Delivery`             — a tick that the window got, seen by the button or not.
* `Watches`              — the button agrees with the stroke that it saw.
* `carries_all_iff`      — when the stroke that it saw lies on it, and when the whole stroke does.
* `click_genuine_iff`    — so a tick latches a click for the strokes that were seen, and the click is
  genuine if nothing else happened behind the back of the button.
* `drag_behind_click`    — which may happen.
-/

namespace TouchPanel

-- ---------------------------------------------------------------------------
-- Buttons among other widgets
-- ---------------------------------------------------------------------------

/-- A type of widgets some of which are buttons. -/
class HasButtons (α : Type) [Widget α] where
  ofButton : Button → α
  /-- Changes a widget that is a button. -/
  mapButton : (Button → Button) → α → α
  mapButton_ofButton (f : Button → Button) (b : Button) : mapButton f (ofButton b) = ofButton (f b)
  state_ofButton (b : Button) : Widget.state (ofButton b) = b.state
  mapState_ofButton (f : WidgetState → WidgetState) (b : Button) :
    Widget.mapState f (ofButton b) = ofButton (Widget.mapState f b)
  step_ofButton {σ : Type} [Canvas σ] (origin : Point) (tick : Tick) (b : Button) :
    (Widget.step origin tick (ofButton b) : Paint σ α) = ofButton <$> Widget.step origin tick b

instance : HasButtons Button where
  ofButton := id
  mapButton f b := f b
  mapButton_ofButton _ _ := rfl
  state_ofButton _ := rfl
  mapState_ofButton _ _ := rfl
  step_ofButton _ _ _ := (id_map _).symm

instance : HasButtons Element where
  ofButton := .button
  mapButton := .mapButton
  mapButton_ofButton _ _ := rfl
  state_ofButton _ := rfl
  mapState_ofButton _ _ := rfl
  step_ofButton _ _ _ := rfl

instance {O : Type} [OutcomeLabel O] : HasButtons (Node O) where
  ofButton b := .element (.button b)
  mapButton f n :=
    match n with
    | .element e => .element (e.mapButton f)
    | n => n
  mapButton_ofButton _ _ := rfl
  state_ofButton _ := rfl
  mapState_ofButton _ _ := rfl
  step_ofButton origin tick b := by
    show Node.step origin tick (.element (.button b)) = _
    rw [Node.step, Node.stepUnder]
    show Node.element <$> (Element.button <$> Widget.step origin tick b) = _
    rw [← comp_map]
    rfl

/-- A button in a window after a step of the window. -/
theorem Window.child?_ofButton_of_ends_step {α σ : Type} [Widget α] [HasButtons α] [Canvas σ]
    {origin : Point} {tick : Tick} {w w' : Window α} {s t : σ}
    (h : (w.step origin tick).Ends s w' t) {id : ChildId} {b : Button}
    (hButton : w.child? id = some (HasButtons.ofButton b)) :
    w'.child? id = some (HasButtons.ofButton
      (ModalDialog.turned (w.state.globalPosition origin) tick
        (if w.state.dirty then Widget.markDirty b else b))) := by
  have hMarked : w.marked[id.slot]? = some (HasButtons.ofButton
      (if w.state.dirty then Widget.markDirty b else b)) := by
    rw [child?] at hButton
    rw [marked]
    cases w.state.dirty with
    | true =>
      rw [if_pos rfl, if_pos rfl, List.getElem?_map, hButton, Option.map_some]
      exact congrArg some (HasButtons.mapState_ofButton _ b)
    | false => exact hButton
  generalize (if w.state.dirty then Widget.markDirty b else b) = marked at hMarked ⊢
  obtain ⟨child', hChild', hTurn⟩ := exists_turn_of_ends_step h hMarked
  rw [child?, hChild', ModalDialog.turned]
  rw [HasButtons.state_ofButton] at hTurn
  congr 1
  split at hTurn
  · rename_i hVisible
    obtain ⟨u, v, hStep⟩ := hTurn
    rw [HasButtons.step_ofButton, Paint.ends_map] at hStep
    obtain ⟨b', hStep, rfl⟩ := hStep
    rw [if_pos hVisible, Button.eq_of_ends_step hStep]
  · rename_i hHidden
    rw [if_neg hHidden]
    exact hTurn

-- ---------------------------------------------------------------------------
-- Ticks seen and not seen
-- ---------------------------------------------------------------------------

/-- A tick that a window got. -/
structure Delivery where
  tick : Tick
  /-- The button was visible, so the tick was given to it. -/
  seen : Bool
  deriving DecidableEq, Repr

namespace Delivery

/-- The ticks that the window got. -/
def ticks (deliveries : List Delivery) : List Tick := deliveries.map tick

/-- The ticks that the button saw. -/
def seenTicks (deliveries : List Delivery) : List Tick := ticks (deliveries.filter seen)

/-- The stroke under way, with what was seen of it. -/
def lastBlock (deliveries : List Delivery) : List Delivery :=
  deliveries.rtakeWhile fun delivery => delivery.tick.isHeld

/-- The pointer stays in an area while the button is hidden. -/
def StaysUnseen (area : Rect) (deliveries : List Delivery) : Prop :=
  ∀ delivery ∈ deliveries, delivery.seen = false →
    ∀ place ∈ delivery.tick.pointer, area.contains place = true

instance (area : Rect) (deliveries : List Delivery) : Decidable (StaysUnseen area deliveries) :=
  inferInstanceAs (Decidable (∀ delivery ∈ deliveries, delivery.seen = false → _))

theorem seenTicks_concat_seen (earlier : List Delivery) (tick : Tick) :
    seenTicks (earlier ++ [⟨tick, true⟩]) = seenTicks earlier ++ [tick] := by
  simp [seenTicks, ticks]

theorem seenTicks_concat_unseen (earlier : List Delivery) (tick : Tick) :
    seenTicks (earlier ++ [⟨tick, false⟩]) = seenTicks earlier := by
  simp [seenTicks]

theorem lastBlock_concat_held (earlier : List Delivery) {last : Delivery}
    (h : last.tick.isHeld = true) : lastBlock (earlier ++ [last]) = lastBlock earlier ++ [last] :=
  List.rtakeWhile_concat_pos _ earlier last h

theorem lastBlock_concat_lifted (earlier : List Delivery) {last : Delivery}
    (h : ¬last.tick.isHeld = true) : lastBlock (earlier ++ [last]) = [] :=
  List.rtakeWhile_concat_neg _ earlier last h

theorem lastStroke_ticks (deliveries : List Delivery) :
    lastStroke (ticks deliveries) =
      (lastBlock deliveries).filterMap fun delivery => delivery.tick.pointer := by
  induction deliveries using List.reverseRecOn with
  | nil => exact lastStroke_nil
  | append_singleton earlier last ih =>
    have hTicks : ticks (earlier ++ [last]) = ticks earlier ++ [last.tick] := List.map_append
    rw [hTicks]
    cases hPointer : last.tick.pointer with
    | none =>
      have hLifted : ¬last.tick.isHeld = true := by simp [Tick.isHeld, hPointer]
      rw [lastStroke_concat_lifted hPointer, lastBlock_concat_lifted _ hLifted, List.filterMap_nil]
    | some place =>
      have hHeld : last.tick.isHeld = true := by rw [Tick.isHeld, hPointer, Option.isSome_some]
      rw [lastStroke_concat_held hPointer, lastBlock_concat_held _ hHeld, ih, List.filterMap_append]
      simp [hPointer]

/-- What was seen of the stroke under way belongs to the stroke that was seen. -/
theorem mem_lastBlock_filter {delivery : Delivery} {deliveries : List Delivery}
    (h : delivery ∈ lastBlock deliveries) (hSeen : delivery.seen = true) :
    delivery ∈ lastBlock (deliveries.filter seen) := by
  induction deliveries using List.reverseRecOn with
  | nil => exact h
  | append_singleton earlier last ih =>
    by_cases hHeld : last.tick.isHeld = true
    · rw [lastBlock_concat_held _ hHeld] at h
      rw [List.filter_append]
      cases hLast : last.seen with
      | true =>
        rw [List.filter_cons_of_pos hLast, List.filter_nil, lastBlock_concat_held _ hHeld]
        rcases List.mem_append.mp h with hEarlier | hMem
        · exact List.mem_append_left _ (ih hEarlier)
        · exact List.mem_append_right _ hMem
      | false =>
        rw [List.filter_cons_of_neg (Bool.not_eq_true _ ▸ hLast), List.filter_nil, List.append_nil]
        rcases List.mem_append.mp h with hEarlier | hMem
        · exact ih hEarlier
        · rw [List.mem_singleton.mp hMem, hLast] at hSeen
          cases hSeen
    · rw [lastBlock_concat_lifted _ hHeld] at h
      cases h

/-- If the stroke that was seen lies on the button, then the whole stroke does exactly when it has
begun and did not leave the button unseen. -/
theorem carries_all_iff {area : Rect} {deliveries : List Delivery}
    (hSeen : area.Carries (lastStroke (seenTicks deliveries))) :
    area.Carries (lastStroke (ticks deliveries)) ↔
      lastStroke (ticks deliveries) ≠ [] ∧ StaysUnseen area (lastBlock deliveries) := by
  refine and_congr_right fun _ => ?_
  simp only [lastStroke_ticks, List.mem_filterMap]
  constructor
  · intro hAll delivery hDelivery _ place hPlace
    exact hAll place ⟨delivery, hDelivery, hPlace⟩
  · intro hUnseen place hPlace
    obtain ⟨delivery, hDelivery, hPlace⟩ := hPlace
    cases hView : delivery.seen with
    | false => exact hUnseen delivery hDelivery hView place hPlace
    | true =>
      refine hSeen.2 place ?_
      rw [seenTicks, lastStroke_ticks, List.mem_filterMap]
      exact ⟨delivery, mem_lastBlock_filter hDelivery hView, hPlace⟩

end Delivery

-- ---------------------------------------------------------------------------
-- Windows with a button
-- ---------------------------------------------------------------------------

/-- What is done to a window and to one of its buttons. -/
inductive ButtonCall where
  | tick (input : Tick)
  | setVisible (visible : Bool)
  | takeClick

namespace ButtonCall

section Perform

variable {α σ : Type} [Widget α] [HasButtons α] [Canvas σ]

/-- Makes one call. The window is in an owner that lies at `origin`. -/
def perform (origin : Point) (id : ChildId) (w : Window α) : ButtonCall → Paint σ (Window α)
  | tick input => w.step origin input
  | setVisible visible => return w.modifyChild id (Widget.mapState (·.setVisible visible))
  | takeClick => return w.modifyChild id (HasButtons.mapButton fun b => b.takeClick.2)

/-- Makes one call after the other. -/
def performAll (origin : Point) (id : ChildId) : List ButtonCall → Window α → Paint σ (Window α)
  | [], w => return w
  | call :: rest, w => do performAll origin id rest (← call.perform origin id w)

end Perform

/-- Whether the button is visible after the call. -/
def visibleAfter (visible : Bool) : ButtonCall → Bool
  | setVisible shown => shown
  | _ => visible

/-- The tick that the window gets, if the call is one. -/
def delivered (visible : Bool) : ButtonCall → List Delivery
  | tick input => [⟨input, visible⟩]
  | setVisible _ => []
  | takeClick => []

/-- The ticks that the window gets, if the button is visible at first. -/
def deliveries (visible : Bool) : List ButtonCall → List Delivery
  | [] => []
  | call :: rest => call.delivered visible ++ deliveries (call.visibleAfter visible) rest

end ButtonCall

section Watches

variable {α σ : Type} [Widget α] [HasButtons α] [Canvas σ] {origin place : Point} {area : Rect}
  {id : ChildId} {earlier : List Delivery} {w w' : Window α} {b : Button} {s t : σ}

/-- The window and its button are where they were at first, and the button agrees with the stroke
that it saw. -/
structure Window.Watches (origin place : Point) (area : Rect) (id : ChildId)
    (earlier : List Delivery) (w : Window α) (b : Button) : Prop where
  button : w.child? id = some (HasButtons.ofButton b)
  position : w.state.globalPosition origin = place
  bounds : b.state.globalBounds place = area
  follows : b.Follows area (lastStroke (Delivery.seenTicks earlier))

namespace Window.Watches

/-- The owner of a button may change all but its place and what it knows of the pointer. -/
theorem modifyChild (h : w.Watches origin place area id earlier b) {f : α → α} {b' : Button}
    (hChange : f (HasButtons.ofButton b) = HasButtons.ofButton b')
    (hBounds : b'.state.bounds = b.state.bounds) (hPressed : b'.pressed = b.pressed)
    (hHeld : b'.pointerHeld = b.pointerHeld) :
    (w.modifyChild id f).Watches origin place area id earlier b' where
  button := by
    have hButton : w.children[id.slot]? = some (HasButtons.ofButton b) := h.button
    rw [child?, Window.modifyChild, List.getElem?_modify_eq, hButton, ← hChange]
    rfl
  position := h.position
  bounds := by
    rw [WidgetState.globalBounds, hBounds]
    exact h.bounds
  follows := ⟨hHeld ▸ h.follows.held, hPressed ▸ h.follows.pressed⟩

/-- A tick: the button sees it if it is visible, and latches a click if the pointer is lifted and
the stroke that it saw lies on it. -/
theorem tick (h : w.Watches origin place area id earlier b) {tick : Tick}
    (hStep : (w.step origin tick).Ends s w' t) :
    ∃ b', w'.Watches origin place area id (earlier ++ [⟨tick, b.state.visible⟩]) b' ∧
      b'.state.visible = b.state.visible ∧
      (b'.clicked = true ↔ b.clicked = true ∨ b.state.visible = true ∧ tick.pointer = none ∧
        area.Carries (lastStroke (Delivery.seenTicks earlier))) := by
  have hButton := child?_ofButton_of_ends_step hStep h.button
  obtain ⟨u, children, -, -, rfl⟩ := ends_step_window.mp hStep
  -- whether the button was made dirty makes no difference
  obtain ⟨b₁, hMarked, hState, hPressed, hHeld, hClicked⟩ : ∃ b₁ : Button,
      (if w.state.dirty then Widget.markDirty b else b) = b₁ ∧
        b₁.state = { b.state with dirty := b₁.state.dirty } ∧ b₁.pressed = b.pressed ∧
        b₁.pointerHeld = b.pointerHeld ∧ b₁.clicked = b.clicked := by
    refine ⟨_, rfl, ?_⟩
    cases w.state.dirty <;> exact ⟨rfl, rfl, rfl, rfl⟩
  rw [hMarked, h.position] at hButton
  have hTurned := ModalDialog.state_turned place tick b₁
  rw [hState] at hTurned
  have hArea : b₁.state.globalBounds place = area := by
    rw [hState]
    exact h.bounds
  have hFollows : b₁.Follows area (lastStroke (Delivery.seenTicks earlier)) :=
    ⟨hHeld ▸ h.follows.held, hPressed ▸ h.follows.pressed⟩
  have hVisible : b₁.state.visible = b.state.visible := by rw [hState]
  refine ⟨ModalDialog.turned place tick b₁, ⟨hButton, h.position, ?_, ?_⟩, ?_, ?_⟩
  · rw [hTurned]
    exact h.bounds
  · rw [ModalDialog.turned, hVisible]
    cases b.state.visible with
    | true =>
      have hNext := hFollows.track tick
      rw [if_pos rfl, hArea, Delivery.seenTicks_concat_seen]
      exact ⟨hNext.held, hNext.pressed⟩
    | false =>
      rw [if_neg Bool.false_ne_true, Delivery.seenTicks_concat_unseen]
      exact hFollows
  · rw [hTurned]
  · rw [ModalDialog.clicked_turned, hClicked, hVisible, Bool.or_eq_true, Bool.and_eq_true,
      Bool.and_eq_true, Option.isNone_iff_eq_none, hFollows.pressed]

/-- What every call keeps. -/
theorem perform (h : w.Watches origin place area id earlier b) {call : ButtonCall}
    (hCall : (call.perform origin id w).Ends s w' t) :
    ∃ b', w'.Watches origin place area id (earlier ++ call.delivered b.state.visible) b' ∧
      b'.state.visible = call.visibleAfter b.state.visible := by
  cases call with
  | tick input =>
    obtain ⟨b', hWatches, hVisible, -⟩ := h.tick hCall
    exact ⟨b', hWatches, hVisible⟩
  | setVisible visible =>
    obtain ⟨rfl, -⟩ := Paint.ends_pure.mp hCall
    rw [ButtonCall.delivered, List.append_nil]
    exact ⟨_, h.modifyChild (HasButtons.mapState_ofButton _ b) rfl rfl rfl, rfl⟩
  | takeClick =>
    obtain ⟨rfl, -⟩ := Paint.ends_pure.mp hCall
    rw [ButtonCall.delivered, List.append_nil]
    exact ⟨_, h.modifyChild (HasButtons.mapButton_ofButton _ b) rfl rfl rfl, rfl⟩

/-- What every sequence of calls keeps. -/
theorem performAll (h : w.Watches origin place area id earlier b) {calls : List ButtonCall}
    (hCalls : (ButtonCall.performAll origin id calls w).Ends s w' t) :
    ∃ b', w'.Watches origin place area id
      (earlier ++ ButtonCall.deliveries b.state.visible calls) b' := by
  induction calls generalizing earlier w b s with
  | nil =>
    obtain ⟨rfl, -⟩ := Paint.ends_pure.mp hCalls
    rw [ButtonCall.deliveries, List.append_nil]
    exact ⟨b, h⟩
  | cons call rest ih =>
    obtain ⟨w₁, s₁, hFirst, hRest⟩ := Paint.ends_bind.mp hCalls
    obtain ⟨b₁, h₁, hVisible⟩ := h.perform hFirst
    rw [ButtonCall.deliveries, ← hVisible, ← List.append_assoc]
    exact ih h₁ hRest

end Window.Watches

/-- **Which clicks are genuine.** Let a window have a button that knows of no pointer, and let the
window get any ticks while the button is hidden and shown. Unless one is latched already, a tick
latches a click exactly when the button is visible, the pointer is lifted, and the stroke that the
button saw lies on it. The stroke that the window got before this tick lies on the button exactly
when it has begun and did not leave the button while the button was hidden. -/
theorem Window.click_genuine_iff {w'' : Window α} {calls : List ButtonCall} {tick : Tick} {u : σ}
    (hButton : w.child? id = some (HasButtons.ofButton b)) (hPressed : b.pressed = false)
    (hHeld : b.pointerHeld = false)
    (hRun : (ButtonCall.performAll origin id calls w).Ends s w' t)
    (hTick : (w'.step origin tick).Ends t w'' u) :
    let deliveries := ButtonCall.deliveries b.state.visible calls
    let area := b.state.globalBounds (w.state.globalPosition origin)
    ∃ b' b'', w'.child? id = some (HasButtons.ofButton b') ∧
      w''.child? id = some (HasButtons.ofButton b'') ∧
      (b'.clicked = false →
        (b''.clicked = true ↔ b'.state.visible = true ∧ tick.pointer = none ∧
          area.Carries (lastStroke (Delivery.seenTicks deliveries))) ∧
        (b''.clicked = true → (area.Carries (lastStroke (Delivery.ticks deliveries)) ↔
          lastStroke (Delivery.ticks deliveries) ≠ [] ∧
            Delivery.StaysUnseen area (Delivery.lastBlock deliveries)))) := by
  intro deliveries area
  have hStart : w.Watches origin (w.state.globalPosition origin) area id [] b :=
    ⟨hButton, rfl, rfl, Button.follows_nil area hHeld hPressed⟩
  obtain ⟨b', hWatches⟩ := hStart.performAll hRun
  obtain ⟨b'', hAfter, -, hClicked⟩ := hWatches.tick hTick
  refine ⟨b', b'', hWatches.button, hAfter.button, fun hUnset => ?_⟩
  rw [hUnset, or_iff_right Bool.false_ne_true] at hClicked
  exact ⟨hClicked, fun hSet => Delivery.carries_all_iff (hClicked.mp hSet).2.2⟩

end Watches

-- ---------------------------------------------------------------------------
-- A window with one button
-- ---------------------------------------------------------------------------

namespace Window

/-- The button of the window. -/
def goButton : Button := .new ⟨10, 10, 40, 20⟩ "Go" .standard

def oneButton : Window Element :=
  { (Window.new ⟨0, 0, 100, 60⟩ .standard 1 : Window Element) with children := [.button goButton] }

/-- The pointer is put down on the button, moves to a place while the button is hidden, and is still
there when the button is shown again. -/
def moveUnseen (place : Point) : List ButtonCall :=
  [.tick ⟨10, some ⟨20, 15⟩⟩, .setVisible false, .tick ⟨10, some place⟩, .setVisible true]

/-- Whether a click is latched on the button of a name. -/
def clicked? (w : Window Element) (id : ChildId) : Option Bool :=
  ((w.child? id).bind Element.button?).map Button.clicked

/-- The window before and after the pointer is lifted at last. -/
def liftAfter (calls : List ButtonCall) : Paint Recorder (Window Element × Window Element) := do
  let w ← ButtonCall.performAll .zero ⟨0⟩ calls oneButton
  return (w, ← w.step .zero ⟨10, none⟩)

/-- Whether a click is latched before and after that. -/
def clicksOf (ends : Window Element × Window Element) : Option Bool × Option Bool :=
  (ends.1.clicked? ⟨0⟩, ends.2.clicked? ⟨0⟩)

theorem exists_of_liftAfter {calls : List ButtonCall} {s : Recorder} {before after : Option Bool}
    (h : ((liftAfter calls).run s).value?.map clicksOf = some (before, after)) :
    ∃ w w' t u, (ButtonCall.performAll .zero ⟨0⟩ calls oneButton).Ends s w t ∧
      (w.step .zero ⟨10, none⟩).Ends t w' u ∧ w.clicked? ⟨0⟩ = before ∧
      w'.clicked? ⟨0⟩ = after := by
  obtain ⟨⟨w, w'⟩, u, hRun, hClicks⟩ := Paint.exists_ends_of_value? h
  obtain ⟨hBefore, hAfter⟩ := Prod.mk.inj hClicks
  obtain ⟨_, t, hCalls, hRest⟩ := Paint.ends_bind.mp hRun
  obtain ⟨_, _, hStep, hReturn⟩ := Paint.ends_bind.mp hRest
  obtain ⟨hPair, rfl⟩ := Paint.ends_pure.mp hReturn
  cases hPair
  exact ⟨_, _, t, u, hCalls, hStep, hBefore, hAfter⟩

/-- The pointer stays on the button, and the click is genuine. -/
theorem click_genuine_iff_moveWithin :
    oneButton.child? ⟨0⟩ = some (.button goButton) ∧ goButton.pressed = false ∧
    goButton.pointerHeld = false ∧
    ∃ w w' t u,
      (ButtonCall.performAll .zero ⟨0⟩ (moveUnseen ⟨25, 16⟩) oneButton).Ends
        (⟨⟨320, 240⟩, ⟨8, 16⟩, []⟩ : Recorder) w t ∧
      (w.step .zero ⟨10, none⟩).Ends t w' u ∧
      w.clicked? ⟨0⟩ = some false ∧ w'.clicked? ⟨0⟩ = some true ∧
      (goButton.state.globalBounds .zero).Carries
        (lastStroke (Delivery.ticks (ButtonCall.deliveries true (moveUnseen ⟨25, 16⟩)))) := by
  have hClicks : ((liftAfter (moveUnseen ⟨25, 16⟩)).run ⟨⟨320, 240⟩, ⟨8, 16⟩, []⟩).value?.map
      clicksOf = some (some false, some true) := by
    decide +kernel
  obtain ⟨w, w', t, u, hCalls, hStep, hBefore, hAfter⟩ := exists_of_liftAfter hClicks
  obtain ⟨b, b', hButton, hButton', hClick⟩ :=
    click_genuine_iff (b := goButton) rfl rfl rfl hCalls hStep
  refine ⟨rfl, rfl, rfl, w, w', t, u, hCalls, hStep, hBefore, hAfter, ?_⟩
  rw [clicked?, hButton] at hBefore
  rw [clicked?, hButton'] at hAfter
  exact ((hClick (Option.some.inj hBefore)).2 (Option.some.inj hAfter)).mpr ⟨by decide, by decide⟩

/-- The pointer is put down on the button, leaves it while the button is hidden, and is lifted
elsewhere after the button was shown again. This latches a click, although the stroke before it does
not lie on the button. -/
theorem drag_behind_click :
    ∃ w w' t u,
      (ButtonCall.performAll .zero ⟨0⟩ (moveUnseen ⟨90, 50⟩) oneButton).Ends
        (⟨⟨320, 240⟩, ⟨8, 16⟩, []⟩ : Recorder) w t ∧
      (w.step .zero ⟨10, none⟩).Ends t w' u ∧
      w.clicked? ⟨0⟩ = some false ∧ w'.clicked? ⟨0⟩ = some true ∧
      ¬(goButton.state.globalBounds .zero).Carries
        (lastStroke (Delivery.ticks (ButtonCall.deliveries true (moveUnseen ⟨90, 50⟩)))) := by
  have hClicks : ((liftAfter (moveUnseen ⟨90, 50⟩)).run ⟨⟨320, 240⟩, ⟨8, 16⟩, []⟩).value?.map
      clicksOf = some (some false, some true) := by
    decide +kernel
  obtain ⟨w, w', t, u, hCalls, hStep, hBefore, hAfter⟩ := exists_of_liftAfter hClicks
  exact ⟨w, w', t, u, hCalls, hStep, hBefore, hAfter, by decide⟩

end Window

end TouchPanel
