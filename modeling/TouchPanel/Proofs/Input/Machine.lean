import TouchPanel.Proofs.Input.Stroke
import TouchPanel.Proofs.Step.Element

/-!
# What the flags of a button say about its past

A button has three flags, and four things may be done to it: it is stepped, it is clicked, its click
is taken, and its input is reset. The flags are a summary of everything that was done, in whatever
order. This module says what they are a summary of, without any flags: `stroke` is what is known of
the pointer, and `ClickWaits` looks for a click that was neither taken nor dropped since.

* `ButtonAction.Run`     — a button to which a list of things was done.
* `stroke_concat`, `clickWaits_concat` — how the two parts of the past go on.
* `Button.Remembers`     — the flags say what they should.
* `Button.flags_of_run`  — and so they do, whatever is done to a new button.
-/

namespace TouchPanel

-- ---------------------------------------------------------------------------
-- What is done to a button
-- ---------------------------------------------------------------------------

/-- What is done to a button that stays where it is. -/
inductive ButtonAction where
  | step (tick : Tick)
  | click
  | takeClick
  | reset
  deriving DecidableEq, Repr

namespace ButtonAction

/-- What an action makes of a button. A step is made on some canvas, and it comes to an end. -/
inductive Does (origin : Point) : ButtonAction → Button → Button → Prop
  | step {σ : Type} [Canvas σ] {s t : σ} {tick : Tick} {b b' : Button}
      (h : (Widget.step origin tick b).Ends s b' t) : Does origin (.step tick) b b'
  | click {b : Button} : Does origin .click b b.click
  | takeClick {b : Button} : Does origin .takeClick b b.takeClick.2
  | reset {b : Button} : Does origin .reset b b.reset.1

/-- A button after a list of actions, the last of which was done last. -/
inductive Run (origin : Point) (b : Button) : List ButtonAction → Button → Prop
  | nil : Run origin b [] b
  | concat {actions : List ButtonAction} {action : ButtonAction} {b' b'' : Button}
      (before : Run origin b actions b') (last : action.Does origin b' b'') :
      Run origin b (actions ++ [action]) b''

/-- The place of the pointer in a step. -/
def place? : ButtonAction → Option Point
  | step tick => tick.pointer
  | click | takeClick | reset => none

/-- The action ends the stroke that is under way. -/
def endsStroke : ButtonAction → Bool
  | step tick => tick.pointer.isNone
  | click | takeClick => false
  | reset => true

/-- The action takes or drops a click that waits. -/
def dropsClick : ButtonAction → Bool
  | step _ | click => false
  | takeClick | reset => true

/-- The stroke under way: the places of the pointer in the steps since it was last lifted, or
forgotten. -/
def stroke (actions : List ButtonAction) : List Point :=
  (actions.rtakeWhile fun action => !action.endsStroke).filterMap place?

/-- The action latches a click: it is one, or it lifts the pointer after a stroke in the area. -/
def Latches (area : Rect) (stroke : List Point) : ButtonAction → Prop
  | step tick => tick.pointer = none ∧ area.Carries stroke
  | click => True
  | takeClick | reset => False

/-- A click was latched, and nothing has taken or dropped it since. -/
def ClickWaits (area : Rect) (actions : List ButtonAction) : Prop :=
  ∃ earlier action later, actions = earlier ++ action :: later ∧
    action.Latches area (stroke earlier) ∧ ∀ next ∈ later, next.dropsClick = false

-- ---------------------------------------------------------------------------
-- One more action
-- ---------------------------------------------------------------------------

variable {area : Rect} {actions : List ButtonAction} {action : ButtonAction}

theorem stroke_concat (actions : List ButtonAction) (action : ButtonAction) :
    stroke (actions ++ [action]) =
      if action.endsStroke then [] else stroke actions ++ action.place?.toList := by
  rw [stroke, List.rtakeWhile_concat]
  cases action.endsStroke with
  | true => rfl
  | false =>
    rw [if_neg Bool.false_ne_true, Bool.not_false, if_pos rfl, List.filterMap_append]
    cases hPlace : action.place? <;> simp [stroke, hPlace]

theorem not_clickWaits_nil (area : Rect) : ¬ClickWaits area [] := by
  rintro ⟨earlier, action, later, hActions, -⟩
  simp at hActions

/-- A click waits if it is latched now, or waited before and is not taken or dropped now. -/
theorem clickWaits_concat :
    ClickWaits area (actions ++ [action]) ↔
      action.Latches area (stroke actions) ∨
        action.dropsClick = false ∧ ClickWaits area actions := by
  refine ⟨fun h => ?_, fun h => ?_⟩
  · obtain ⟨earlier, latching, later, hActions, hLatches, hKept⟩ := h
    rcases List.eq_nil_or_concat later with rfl | ⟨rest, last, rfl⟩
    · obtain ⟨rfl, hSame⟩ := List.append_inj' hActions rfl
      cases hSame
      exact .inl hLatches
    · have hSplit : actions ++ [action] = (earlier ++ latching :: rest) ++ [last] := by
        simpa using hActions
      obtain ⟨rfl, hSame⟩ := List.append_inj' hSplit rfl
      cases hSame
      exact .inr ⟨hKept _ (by simp), earlier, latching, rest, rfl, hLatches,
        fun next hNext => hKept next (by simp [hNext])⟩
  · rcases h with hLatches | ⟨hLast, earlier, latching, later, rfl, hLatches, hKept⟩
    · exact ⟨actions, action, [], rfl, hLatches, fun next hNext => nomatch hNext⟩
    · refine ⟨earlier, latching, later ++ [action], by simp, hLatches, fun next hNext => ?_⟩
      rcases List.mem_append.mp hNext with hLater | hSame
      · exact hKept next hLater
      · rw [List.mem_singleton.mp hSame]
        exact hLast

end ButtonAction

-- ---------------------------------------------------------------------------
-- The flags
-- ---------------------------------------------------------------------------

namespace Button

open ButtonAction

variable {origin : Point} {b b' : Button} {actions : List ButtonAction} {action : ButtonAction}
  {area : Rect}

/-- The flags of a button in an area say what was done to it. -/
structure Remembers (b : Button) (origin : Point) (area : Rect) (actions : List ButtonAction) :
    Prop where
  bounds : b.state.globalBounds origin = area
  follows : b.Follows area (stroke actions)
  clicked : b.clicked = true ↔ ClickWaits area actions

theorem remembers_new (rect : Rect) (text : String) (style : Style) (origin : Point) :
    (Button.new rect text style).Remembers origin
      ((Button.new rect text style).state.globalBounds origin) [] where
  bounds := rfl
  follows := follows_nil _ rfl rfl
  clicked := iff_of_false Bool.false_ne_true (not_clickWaits_nil _)

/-- A reset changes only what is known of input, and the dirty flag. -/
theorem reset_eq (b : Button) :
    b.reset.1 =
      { b with
        state := { b.state with dirty := b.reset.1.state.dirty }
        pressed := false
        pointerHeld := false
        clicked := false } := by
  unfold reset
  split <;> rfl

/-- No action moves the button. -/
theorem globalBounds_of_does (h : action.Does origin b b') :
    b'.state.globalBounds origin = b.state.globalBounds origin := by
  cases h with
  | step hEnds =>
    rw [eq_of_ends_step hEnds, track_eq]
    rfl
  | click => rfl
  | takeClick => rfl
  | reset =>
    rw [reset_eq]
    rfl

/-- A button that agrees with the stroke under way still does after an action. -/
theorem Follows.does (h : b.Follows (b.state.globalBounds origin) (stroke actions))
    (hAction : action.Does origin b b') :
    b'.Follows (b.state.globalBounds origin) (stroke (actions ++ [action])) := by
  rw [stroke_concat]
  cases hAction with
  | @step _ _ _ _ tick _ _ hEnds =>
    -- what was drawn in the step has no part in it
    suffices hTrack : (b.track (b.state.globalBounds origin) tick.pointer).1.Follows _ _ by
      rw [eq_of_ends_step hEnds]
      exact ⟨hTrack.held, hTrack.pressed⟩
    rw [endsStroke, place?]
    rcases tick.pointer with _ | place
    · exact b.follows_track_lifted _
    · exact h.track_held place
  | click =>
    rw [endsStroke, place?, Option.toList_none, List.append_nil]
    exact ⟨h.held, h.pressed⟩
  | takeClick =>
    rw [endsStroke, place?, Option.toList_none, List.append_nil]
    exact ⟨h.held, h.pressed⟩
  | reset =>
    rw [reset_eq]
    exact follows_nil _ rfl rfl

/-- When a click waits after an action. -/
theorem Follows.clicked_does {stroke : List Point}
    (h : b.Follows (b.state.globalBounds origin) stroke) (hAction : action.Does origin b b') :
    b'.clicked = true ↔
      action.Latches (b.state.globalBounds origin) stroke ∨
        action.dropsClick = false ∧ b.clicked = true := by
  cases hAction with
  | @step _ _ _ _ tick _ _ hEnds =>
    rw [eq_of_ends_step hEnds]
    show (b.track _ tick.pointer).1.clicked = true ↔ _
    rw [clicked_track, Bool.or_eq_true, Bool.and_eq_true, Option.isNone_iff_eq_none, h.pressed,
      or_comm, Latches, dropsClick, eq_self, true_and]
  | click => exact iff_of_true rfl (.inl trivial)
  | takeClick => simp [takeClick, Latches, dropsClick]
  | reset =>
    rw [reset_eq]
    exact iff_of_false Bool.false_ne_true (by simp [Latches, dropsClick])

/-- What every action keeps. -/
theorem Remembers.does (h : b.Remembers origin area actions) (hAction : action.Does origin b b') :
    b'.Remembers origin area (actions ++ [action]) := by
  obtain ⟨rfl, hFollows, hClicked⟩ := h
  refine ⟨globalBounds_of_does hAction, hFollows.does hAction, ?_⟩
  rw [clickWaits_concat, ← hClicked]
  exact hFollows.clicked_does hAction

/-- What every run keeps. -/
theorem Remembers.run (h : b.Remembers origin area []) (hRun : Run origin b actions b') :
    b'.Remembers origin area actions := by
  induction hRun with
  | nil => exact h
  | concat _ hLast ih => exact ih.does hLast

/-- **The flags of a button are a summary of its past.** Whatever is done to a new button, and in
whatever order, as long as its steps come to an end:

* it is pressed exactly when the stroke under way has begun and lies on it;
* a step that lifts the pointer latches a click exactly when the stroke that it ends has begun and
  lies on the button;
* a click waits exactly when one was latched, by a click or by such a step, and nothing has taken or
  dropped it since. -/
theorem flags_of_run {rect : Rect} {text : String} {style : Style}
    (hRun : Run origin (.new rect text style) actions b) :
    let area := (Button.new rect text style).state.globalBounds origin
    (b.pressed = true ↔ area.Carries (stroke actions)) ∧
      (∀ tick b', tick.pointer = none → (ButtonAction.step tick).Does origin b b' →
        (b'.clicked = true ↔ area.Carries (stroke actions) ∨ b.clicked = true)) ∧
      (b.clicked = true ↔ ClickWaits area actions) := by
  intro area
  obtain ⟨hBounds, hFollows, hClicked⟩ := (remembers_new rect text style origin).run hRun
  refine ⟨hFollows.pressed, fun tick b' hLifted hStep => ?_, hClicked⟩
  have hLatched := Follows.clicked_does (hBounds ▸ hFollows) hStep
  rw [hBounds, Latches, dropsClick, eq_true hLifted, true_and, eq_self, true_and] at hLatched
  exact hLatched

/-- The pointer is put down on a button, leaves it and is lifted elsewhere, is put down on it and
lifted there, and is put down on it once more. -/
def twoPresses : List ButtonAction :=
  [.step ⟨10, some ⟨20, 15⟩⟩, .step ⟨10, some ⟨70, 15⟩⟩, .step ⟨10, none⟩,
    .step ⟨10, some ⟨20, 15⟩⟩, .step ⟨10, none⟩, .step ⟨10, some ⟨49, 29⟩⟩]

theorem flags_of_run_twoPresses :
    ∃ b, Run .zero (.new ⟨10, 10, 40, 20⟩ "Go" .standard) twoPresses b ∧
      b.pressed = true ∧ b.clicked = true := by
  have hStep (tick : Tick) {b b' : Button} {t : Recorder} {events : List Event}
      (h : (Widget.step .zero tick b).run ⟨⟨320, 240⟩, ⟨8, 16⟩, []⟩ = .done b' t events) :
      (ButtonAction.step tick).Does .zero b b' := .step (.of_run h)
  have hStart : Run .zero (.new ⟨10, 10, 40, 20⟩ "Go" .standard) [] _ := .nil
  have hFirst := ((hStart.concat (hStep ⟨10, some ⟨20, 15⟩⟩ rfl)).concat
    (hStep ⟨10, some ⟨70, 15⟩⟩ rfl)).concat (hStep ⟨10, none⟩ rfl)
  have hRun := ((hFirst.concat (hStep ⟨10, some ⟨20, 15⟩⟩ rfl)).concat
    (hStep ⟨10, none⟩ rfl)).concat (hStep ⟨10, some ⟨49, 29⟩⟩ rfl)
  obtain ⟨hPressed, -, hClicked⟩ := flags_of_run hRun
  exact ⟨_, hRun, hPressed.mpr (by decide),
    hClicked.mpr ⟨twoPresses.take 4, _, _, rfl, ⟨rfl, by decide⟩, by decide⟩⟩

end Button

end TouchPanel
