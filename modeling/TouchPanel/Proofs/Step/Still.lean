import TouchPanel.Proofs.Step.Tree

/-!
# Widgets at rest

A widget is at rest under a tick if a step with that tick leaves it as it is and touches no canvas.
Such a step is nothing but a list of events, and the same list on every canvas.

One step is enough to bring any widget to rest, though everything in it is in motion at once:
dirty flags are handed down and cleared, presses begin, are cancelled or become clicks, and a
dialog takes a click and is resolved.

* `Window.still`, `ModalDialog.still_next` — a container is at rest when it is clean, with no click
  left to take, and its visible children are at rest.
* `Node.step_settles` — a second step with the same tick does nothing.
-/

namespace TouchPanel

-- ---------------------------------------------------------------------------
-- Computations that only report
-- ---------------------------------------------------------------------------

namespace Paint

variable {σ α β : Type}

/-- The computation leaves every surface alone, reports the events and ends with the value. -/
def OnlyReports (m : Paint σ α) (a : α) (events : List Event) : Prop :=
  ∀ s, m.run s = .done a s events

theorem onlyReports_pure (a : α) : (pure a : Paint σ α).OnlyReports a [] :=
  run_pure a

theorem onlyReports_report (events : List Event) :
    (report events : Paint σ Unit).OnlyReports () events :=
  run_report events

theorem OnlyReports.bind {m : Paint σ α} {f : α → Paint σ β} {a : α} {b : β}
    {earlier later : List Event} (hFirst : m.OnlyReports a earlier)
    (hRest : (f a).OnlyReports b later) : (m >>= f).OnlyReports b (earlier ++ later) := by
  intro s
  rw [run_bind_of_done (hFirst s), hRest s]
  rfl

theorem OnlyReports.map {m : Paint σ α} {a : α} {events : List Event}
    (h : m.OnlyReports a events) (f : α → β) : (f <$> m).OnlyReports (f a) events := by
  have hBind : (m >>= fun a => pure (f a)).OnlyReports (f a) (events ++ []) :=
    h.bind (onlyReports_pure (f a))
  rw [List.append_nil, bind_pure_comp] at hBind
  exact hBind

end Paint

/-- A step with the tick, in an owner that lies at `origin`, leaves the widget as it is and does
nothing but report, on every canvas. -/
def Widget.Still {α : Type} [Widget α] (origin : Point) (tick : Tick) (w : α) : Prop :=
  ∃ events, ∀ {σ : Type} [Canvas σ],
    (Widget.step origin tick w : Paint σ α).OnlyReports w events

-- ---------------------------------------------------------------------------
-- Labels and buttons
-- ---------------------------------------------------------------------------

theorem Label.still {l : Label} (hClean : l.state.dirty = false) (origin : Point) (tick : Tick) :
    Widget.Still origin tick l := by
  refine ⟨[], fun {σ} _ => ?_⟩
  have hStep : (Widget.step origin tick l : Paint σ Label) = pure l := by
    simp [Widget.step, Label.step, hClean]
  rw [hStep]
  exact Paint.onlyReports_pure l

/-- A clean button is at rest while its flags agree with the pointer. -/
theorem Button.still {b : Button} {origin : Point} {tick : Tick} (hClean : b.state.dirty = false)
    (hTracked : b.track (b.state.globalBounds origin) tick.pointer = (b, [])) :
    Widget.Still origin tick b := by
  refine ⟨[], fun {σ} _ => ?_⟩
  have hStep : (Widget.step origin tick b : Paint σ Button) =
      Paint.report [] >>= fun _ => pure b := by
    simp [Widget.step, Button.step, hTracked, hClean]
  rw [hStep]
  exact (Paint.onlyReports_report []).bind (Paint.onlyReports_pure b)

theorem Element.still_label {l : Label} {origin : Point} {tick : Tick}
    (h : Widget.Still origin tick l) : Widget.Still origin tick (Element.label l) := by
  obtain ⟨events, hReports⟩ := h
  exact ⟨events, hReports.map Element.label⟩

theorem Element.still_button {b : Button} {origin : Point} {tick : Tick}
    (h : Widget.Still origin tick b) : Widget.Still origin tick (Element.button b) := by
  obtain ⟨events, hReports⟩ := h
  exact ⟨events, hReports.map Element.button⟩

/-- Labels and buttons are at rest after a step. -/
theorem Element.still_next (e : Element) (origin : Point) (tick : Tick) :
    Widget.Still origin tick (StepModel.next origin tick e) := by
  cases e with
  | label l => exact still_label (Label.still rfl origin tick)
  | button b =>
    refine still_button (Button.still rfl ?_)
    -- the flags are those that the pointer, on the same area, has just given the button
    have hArea : (Widget.mapState WidgetState.clearDirty
        (b.track (b.state.globalBounds origin) tick.pointer).1).state.globalBounds origin =
          b.state.globalBounds origin := by
      rw [Button.track_eq]
      rfl
    refine Button.track_eq_self _ _ _ (Button.pointerHeld_track _ _ b) fun hDown => ?_
    have hPressed : (b.track (b.state.globalBounds origin) tick.pointer).1.pressed = true := hDown
    rw [Button.pressed_track, Option.any_eq_true] at hPressed
    obtain ⟨place, hPointer, hInside⟩ := hPressed
    rw [Bool.and_eq_true] at hInside
    rw [hArea, hPointer]
    exact hInside.2

-- ---------------------------------------------------------------------------
-- Windows
-- ---------------------------------------------------------------------------

namespace Window

variable {α : Type} [Widget α] {origin place : Point} {tick : Tick}

/-- Children of which the visible ones are at rest have their turns without any effect. -/
theorem onlyReports_stepChildren {nodes : List α}
    (h : ∀ child ∈ nodes, (Widget.state child).visible = true → Widget.Still place tick child)
    (slot : Nat) :
    ∃ events, ∀ {σ : Type} [Canvas σ],
      (stepChildren place tick slot nodes : Paint σ (List α)).OnlyReports nodes events := by
  induction nodes generalizing slot with
  | nil => exact ⟨[], fun {_} _ => Paint.onlyReports_pure []⟩
  | cons child rest ih =>
    obtain ⟨hChild, hRest⟩ := List.forall_mem_cons.mp h
    obtain ⟨later, hLater⟩ := ih hRest (slot + 1)
    cases hVisible : (Widget.state child).visible with
    | true =>
      obtain ⟨first, hFirst⟩ := hChild hVisible
      refine ⟨[.childStepped slot] ++ (first ++ (later ++ [])), fun {σ} _ => ?_⟩
      rw [stepChildren, if_pos hVisible]
      apply (Paint.onlyReports_report _).bind
      apply Paint.OnlyReports.bind
      · exact hFirst
      · exact hLater.bind (Paint.onlyReports_pure _)
    | false =>
      refine ⟨[] ++ (later ++ []), fun {σ} _ => ?_⟩
      rw [stepChildren, if_neg (Bool.not_eq_true _ ▸ hVisible)]
      apply (Paint.onlyReports_pure child).bind
      exact hLater.bind (Paint.onlyReports_pure _)

/-- A clean window is at rest if its visible children are. -/
theorem still {w : Window α} (hClean : w.state.dirty = false)
    (hChildren : ∀ child ∈ w.children, (Widget.state child).visible = true →
      Widget.Still (w.state.globalPosition origin) tick child) : Widget.Still origin tick w := by
  obtain ⟨events, hReports⟩ := onlyReports_stepChildren hChildren 0
  refine ⟨events ++ [], fun {σ} _ => ?_⟩
  have hStep : (Widget.step origin tick w : Paint σ (Window α)) =
      stepChildren (w.state.globalPosition origin) tick 0 w.children >>= fun children =>
        pure { w with children } := by
    simp [Widget.step, step, hClean]
  rw [hStep]
  exact hReports.bind (Paint.onlyReports_pure w)

/-- A window is at rest after a step if its children are after theirs. -/
theorem still_next [StepModel α] {w : Window α}
    (hChildren : ∀ child ∈ w.marked, Widget.Still (w.state.globalPosition origin) tick
      (StepModel.next (w.state.globalPosition origin) tick child)) :
    Widget.Still origin tick (StepModel.next origin tick w) := by
  refine still rfl fun child' hChild' hShown => ?_
  obtain ⟨child, hChild, rfl⟩ := List.mem_map.mp hChild'
  unfold nextChild at hShown ⊢
  split at hShown
  · rename_i hWas
    rw [if_pos hWas]
    exact hChildren child hChild
  · rename_i hWas
    exact absurd hShown hWas

end Window

-- ---------------------------------------------------------------------------
-- Dialogs
-- ---------------------------------------------------------------------------

namespace ModalDialog

variable {O : Type} [OutcomeLabel O] {d : ModalDialog O} {origin : Point} {tick : Tick}

theorem still_of_resolved (hResolved : d.outcome.isSome = true) : Widget.Still origin tick d := by
  refine ⟨[], fun {σ} _ => ?_⟩
  have hStep : (Widget.step origin tick d : Paint σ (ModalDialog O)) = pure d := by
    simp [Widget.step, step, hResolved]
  rw [hStep]
  exact Paint.onlyReports_pure d

/-- An unresolved dialog is at rest if its window is and no bound button has a click. -/
theorem still_of_unresolved (hUnresolved : d.outcome.isSome = false)
    (hWindow : Widget.Still origin tick d.window) (hUnclicked : d.clickedBinding? = none) :
    Widget.Still origin tick d := by
  obtain ⟨events, hReports⟩ := hWindow
  refine ⟨events ++ [], fun {σ} _ => ?_⟩
  have hStep : (Widget.step origin tick d : Paint σ (ModalDialog O)) =
      d.window.step origin tick >>= fun window => collect { d with window } := by
    simp [Widget.step, step, hUnresolved]
  have hCollect : (collect d : Paint σ (ModalDialog O)) = pure d := by
    simp [collect, hUnclicked]
  rw [hStep]
  refine hReports.bind ?_
  rw [hCollect]
  exact Paint.onlyReports_pure d

/-- A dialog is at rest after a step: either the step has resolved it, or there was no click on a
bound button and there is none now. -/
theorem still_next (d : ModalDialog O) (origin : Point) (tick : Tick) :
    Widget.Still origin tick (StepModel.next origin tick d) := by
  simp only [StepModel.next]
  split
  · rename_i hResolved
    exact still_of_resolved hResolved
  · rename_i hUnresolved
    unfold collected
    split
    · rename_i hUnclicked
      refine still_of_unresolved (Bool.not_eq_true _ ▸ hUnresolved) ?_ hUnclicked
      exact Window.still_next fun e _ => e.still_next _ tick
    · exact still_of_resolved rfl

end ModalDialog

-- ---------------------------------------------------------------------------
-- Trees
-- ---------------------------------------------------------------------------

namespace Node

variable {O : Type} [OutcomeLabel O] {origin : Point} {tick : Tick}

/-- What is at rest is so as the root of a tree. -/
theorem still_of_root {α : Type} [Widget α] {n : Node O} {w : α} {wrap : α → Node O}
    (hWrap : wrap w = n)
    (hStep : ∀ {σ : Type} [Canvas σ], (n.step origin tick : Paint σ (Node O)) =
      wrap <$> Widget.step origin tick w)
    (h : Widget.Still origin tick w) : Widget.Still origin tick n := by
  obtain ⟨events, hReports⟩ := h
  refine ⟨events, fun {σ} _ => ?_⟩
  show (n.step origin tick : Paint σ (Node O)).OnlyReports n events
  rw [hStep, ← hWrap]
  exact hReports.map wrap

theorem still_element {e : Element} (h : Widget.Still origin tick e) :
    Widget.Still origin tick (element e : Node O) :=
  still_of_root rfl rfl h

theorem still_dialog {d : ModalDialog O} (h : Widget.Still origin tick d) :
    Widget.Still origin tick (dialog d) :=
  still_of_root rfl rfl h

theorem still_window {w : Window (Node O)} (h : Widget.Still origin tick w) :
    Widget.Still origin tick (window w) :=
  still_of_root rfl (step_window origin tick w) h

/-- A probe is always at rest, for it does nothing but report. -/
theorem still_probe (p : Probe) : Widget.Still origin tick (probe p : Node O) := by
  refine ⟨[.probeStepped ⟨p.id, origin, tick.elapsed, tick.pointer⟩] ++ [], fun {σ} _ => ?_⟩
  have hProbe : (Probe.step origin tick p : Paint σ Probe).OnlyReports p _ :=
    (Paint.onlyReports_report _).bind (Paint.onlyReports_pure p)
  exact hProbe.map probe

/-- **One step brings a tree to rest.** -/
theorem still_next (n : Node O) (origin : Point) (tick : Tick) :
    Widget.Still origin tick (StepModel.next origin tick n) := by
  induction n using induct_marked generalizing origin with
  | element e => exact still_element (e.still_next origin tick)
  | probe p => exact still_probe p
  | dialog d => exact still_dialog (d.still_next origin tick)
  | window w ih =>
    rw [next_window]
    exact still_window (Window.still_next fun child hChild => ih child hChild _)

variable {σ : Type} [Canvas σ]

/-- **Stepping again.** When a step of a tree has ended, another step with the same tick in the same
place draws nothing at all and leaves every node as it is. It does so on the canvas that the first
step has left, and on every other one. -/
theorem step_settles {n n' : Node O} {s t : σ} {events : List Event}
    (hRun : (n.step origin tick).run s = .done n' t events) :
    ∃ again, ∀ {τ : Type} [Canvas τ] (u : τ),
      (n'.step origin tick).run u = .done n' u again ∧
        Canvas.drawnBy (n'.step origin tick) u = [] := by
  have hNext : n' = StepModel.next origin tick n :=
    n.sound.next_of_ends (Paint.Ends.of_run hRun)
  obtain ⟨again, hStill⟩ := n.still_next origin tick
  rw [hNext]
  refine ⟨again, fun {τ} _ u => ⟨hStill u, ?_⟩⟩
  have hTraced := hStill (⟨u, []⟩ : Traced τ)
  rw [Canvas.drawnBy]
  exact congrArg (fun painted => painted.surface.drawn) hTraced

/-- A dirty window with a pressed button in it, a window that is hidden, a probe, and a dialog with
two clicks that nobody took. -/
def inMotion : Node UInt32 :=
  .window
    { (Window.new ⟨10, 20, 300, 200⟩ .standard 4 : Window (Node UInt32)) with
      children :=
        [.element (.button
            { Button.new ⟨4, 8, 30, 20⟩ "A" .standard with pressed := true, pointerHeld := true }),
          .window
            { (Window.new ⟨40, 8, 90, 60⟩ .standard 1 : Window (Node UInt32)) with
              state := (WidgetState.ofRect ⟨40, 8, 90, 60⟩).setVisible false
              children := [.element (.label (.new ⟨4, 4, 60, 20⟩ "B" .standard))] },
          .probe ⟨.ofRect ⟨0, 0, 5, 5⟩, 3⟩,
          .dialog
            { window :=
                { (Window.new ⟨140, 8, 90, 60⟩ .standard 2 : Window Element) with
                  children :=
                    [.button (Button.new ⟨5, 30, 40, 20⟩ "C" .standard).click,
                      .button (Button.new ⟨50, 30, 40, 20⟩ "D" .standard).click] }
              bindings := [(⟨1⟩, 7), (⟨0⟩, 9)]
              outcome := none }] }

theorem step_settles_inMotion :
    ∃ n' t events,
      (inMotion.step ⟨1, 2⟩ ⟨10, none⟩).run (⟨⟨320, 240⟩, ⟨8, 16⟩, []⟩ : Recorder) =
        .done n' t events ∧
      ∃ again, (n'.step ⟨1, 2⟩ ⟨10, none⟩).run t = .done n' t again ∧
        Canvas.drawnBy (n'.step ⟨1, 2⟩ ⟨10, none⟩) t = [] := by
  have hDone : ((inMotion.step ⟨1, 2⟩ ⟨10, none⟩).run
      (⟨⟨320, 240⟩, ⟨8, 16⟩, []⟩ : Recorder)).value?.isSome = true := by
    decide +kernel
  obtain ⟨n', hValue⟩ := Option.isSome_iff_exists.mp hDone
  obtain ⟨t, events, hRun⟩ := Paint.exists_run_of_value? hValue
  obtain ⟨again, hAgain⟩ := step_settles hRun
  exact ⟨n', t, events, hRun, again, hAgain t⟩

end Node

end TouchPanel
