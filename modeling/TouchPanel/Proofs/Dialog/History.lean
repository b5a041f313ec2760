import TouchPanel.Proofs.Dialog.Exec

/-!
# A run forgets what came before

A dialog that is about to run may be in any state: resolved, with clicks that nobody took, with
buttons that were hidden while they were pressed, with any flags set. None of this has a part in
the run. What has one is said by `ModalDialog.lasting`, the dialog without its outcome, without the
dirty flags, and without what its bound buttons know of the input.

The start of a run does not make a dialog equal to `lasting`, for it clears no dirty flag. The first
tick makes up the difference: the window is dirty, so all of its children are made dirty, and then
nothing is left that could tell two dialogs apart.

* `step_restart`       — the first tick of a run, from what is lasting.
* `run_exec`           — a run is a run of what is lasting.
* `exec_forgets_input` — dialogs in which the same is lasting run alike.
-/

namespace TouchPanel

/-- The button without what it knows of the input. -/
def Button.withoutInput (b : Button) : Button :=
  { b with pressed := false, pointerHeld := false, clicked := false }

/-- A dirty button that was reset knows of no input, whatever it knew before. -/
theorem Button.markDirty_reset (b : Button) :
    (Widget.markDirty b.reset.1 : Button) = Widget.markDirty b.withoutInput := by
  unfold Button.reset
  cases b.pressed <;> rfl

/-- A dirty window comes to the same as one with the same children, all of them dirty. -/
theorem Window.step_congr_of_dirty {α σ : Type} [Widget α] [Canvas σ] {w : Window α}
    {children : List α} (hDirty : w.state.dirty = true)
    (hChildren : children.map Widget.markDirty = w.children.map Widget.markDirty)
    (origin : Point) (tick : Tick) :
    ({ w with children } : Window α).step (σ := σ) origin tick = w.step origin tick := by
  have hGround : ({ w with children } : Window α).redraw (σ := σ) = w.redraw := rfl
  simp only [step, hDirty, if_true, hGround, hChildren]

namespace ModalDialog

variable {O σ : Type}

-- ---------------------------------------------------------------------------
-- What is lasting
-- ---------------------------------------------------------------------------

/-- What is lasting of a child: all but the dirty flag and, of a bound button, what it knows of the
input. -/
def lastingChild (bound : List ChildId) (slot : Nat) (e : Element) : Element :=
  (if ⟨slot⟩ ∈ bound then e.mapButton Button.withoutInput else e).mapState
    fun state => { state with dirty := false }

/-- What is lasting of a dialog: all but the outcome, the dirty flags, and what the bound buttons
know of the input. -/
def lasting (d : ModalDialog O) : ModalDialog O where
  window :=
    { d.window with
      state := { d.window.state with dirty := false }
      children := d.window.children.mapIdx (lastingChild (d.bindings.map Prod.fst)) }
  bindings := d.bindings
  outcome := none

-- ---------------------------------------------------------------------------
-- The start of a run
-- ---------------------------------------------------------------------------

theorem mapButton_mapButton (e : Element) (f g : Button → Button) :
    (e.mapButton f).mapButton g = e.mapButton fun b => g (f b) := by
  cases e <;> rfl

theorem getElem?_children_resetButtons (d : ModalDialog O) (ids : List ChildId) (slot : Nat) :
    (d.resetButtons ids).1.window.children[slot]? =
      d.window.children[slot]?.map fun e =>
        if ⟨slot⟩ ∈ ids then e.mapButton fun b => b.reset.1 else e := by
  induction ids generalizing d with
  | nil => simp [resetButtons]
  | cons first rest ih =>
    simp only [resetButtons, ih, mapButton, Window.modifyChild, List.getElem?_modify, List.mem_cons]
    cases d.window.children[slot]? with
    | none => rfl
    | some e =>
      by_cases hFirst : first.slot = slot
      · -- resetting a button once more makes no difference
        subst hFirst
        simp [mapButton_mapButton, reset_reset]
      · have hOther : (⟨slot⟩ : ChildId) ≠ first := fun h => hFirst (h ▸ rfl)
        simp [hFirst, hOther]

theorem markDirty_lastingChild (bound : List ChildId) (slot : Nat) (e : Element) :
    (Widget.markDirty (lastingChild bound slot e) : Element) =
      Widget.markDirty (if ⟨slot⟩ ∈ bound then e.mapButton (fun b => b.reset.1) else e) := by
  unfold lastingChild
  split
  · cases e with
    | label l => rfl
    | button b => exact congrArg Element.button b.markDirty_reset.symm
  · cases e <;> rfl

/-- Starting afresh changes the outcome, the dirty flag of the window and the children. These are,
once they are made dirty, the lasting ones. -/
theorem exists_restart_eq (d : ModalDialog O) :
    ∃ children, d.restart.1 =
        { d.lasting with
          window := { (d.lasting.mapState .markDirty).window with children } } ∧
      children.map Widget.markDirty =
        (d.lasting.mapState .markDirty).window.children.map Widget.markDirty := by
  obtain ⟨children, hReset⟩ := resetButtons_eq ({ d with outcome := none } : ModalDialog O)
    (d.bindings.map Prod.fst)
  have hRestart : d.restart.1 = (({ d with outcome := none } : ModalDialog O).resetButtons
      (d.bindings.map Prod.fst)).1.mapState .markDirty := rfl
  refine ⟨children, by rw [hRestart, hReset]; rfl, List.ext_getElem? fun slot => ?_⟩
  have hChild := getElem?_children_resetButtons ({ d with outcome := none } : ModalDialog O)
    (d.bindings.map Prod.fst) slot
  rw [hReset] at hChild
  have hSlot : children[slot]? = d.window.children[slot]?.map fun e =>
      if ⟨slot⟩ ∈ d.bindings.map Prod.fst then e.mapButton fun b => b.reset.1 else e := hChild
  show _ = (d.lasting.window.children.map Widget.markDirty)[slot]?
  simp only [lasting, List.getElem?_map, List.getElem?_mapIdx, hSlot, Option.map_map,
    Function.comp_def, markDirty_lastingChild]

-- ---------------------------------------------------------------------------
-- The run
-- ---------------------------------------------------------------------------

section Run

variable [OutcomeLabel O] [Canvas σ]

/-- **The first tick of a run** finds nothing but what is lasting. -/
theorem step_restart (d : ModalDialog O) (origin : Point) (tick : Tick) :
    d.restart.1.step (σ := σ) origin tick = (d.lasting.mapState .markDirty).step origin tick := by
  obtain ⟨children, hRestart, hChildren⟩ := d.exists_restart_eq
  have hWindow : ({ (d.lasting.mapState .markDirty).window with children } : Window Element).step
      (σ := σ) origin tick = (d.lasting.mapState .markDirty).window.step origin tick :=
    Window.step_congr_of_dirty rfl hChildren origin tick
  rw [hRestart]
  simp only [step]
  rw [hWindow]
  rfl

/-- **A run is a run of what is lasting**, after the events of its start. -/
theorem run_exec (d : ModalDialog O) {ticks : List Tick} (hTicks : ticks ≠ []) (s : σ) :
    (d.exec ticks).run s = (((d.lasting.mapState .markDirty).pump 0 ticks).run s).following
      (.execStarted d.window.children.length :: d.restart.2) := by
  have hPump : d.restart.1.pump (σ := σ) 0 ticks =
      (d.lasting.mapState .markDirty).pump 0 ticks := by
    cases ticks with
    | nil => exact absurd rfl hTicks
    | cons tick rest => simp only [pump, step_restart]
  rw [exec, Paint.run_bind_of_done (Paint.run_report _ s)]
  show (((Paint.report d.restart.2 >>= fun _ => d.restart.1.pump 0 ticks)).run s).following _ = _
  rw [Paint.run_bind_of_done (Paint.run_report _ s), hPump, Painted.following_following]
  rfl

/-- **A run forgets what came before.** Let two dialogs agree in all but the outcome, the dirty
flags, and what their bound buttons know of the input. If a run of the first one over some ticks
ends without a fault, then so does that of the second one on the same canvas. It has the same
result, leaves the same dialog and the same canvas, and has drawn the same things in the same
order. -/
theorem exec_forgets_input {d e d' : ModalDialog O} {ticks : List Tick} {r : ExecResult O}
    {s t : σ} {events : List Event} (hSame : d.lasting = e.lasting) (hTicks : ticks ≠ [])
    (hRun : (d.exec ticks).run s = .done (d', r) t events) :
    (∃ events', (e.exec ticks).run s = .done (d', r) t events') ∧
      Canvas.drawnBy (e.exec ticks) s = Canvas.drawnBy (d.exec ticks) s := by
  refine ⟨?_, ?_⟩
  · rw [d.run_exec hTicks, Painted.following_eq_done_iff] at hRun
    obtain ⟨later, hPump, -⟩ := hRun
    rw [e.run_exec hTicks, ← hSame, hPump]
    exact ⟨_, rfl⟩
  · rw [Canvas.drawnBy, Canvas.drawnBy, d.run_exec hTicks, e.run_exec hTicks, hSame,
      Painted.surface_following, Painted.surface_following]

/-- The dialog `overlapping` with another history: it waits, nothing in it is dirty, and the pointer
is held down on one of the buttons while the other one has a click. -/
def overlappingPressed : ModalDialog UInt32 where
  window :=
    { (Window.new ⟨0, 0, 100, 60⟩ .standard 4 : Window Element) with
      state := (WidgetState.ofRect ⟨0, 0, 100, 60⟩).clearDirty
      children :=
        [(Element.label (.new ⟨5, 5, 60, 10⟩ "Which?" .standard)).mapState .clearDirty,
          (Element.button { Button.new ⟨10, 20, 30, 20⟩ "A" .standard with
            pressed := true, pointerHeld := true }).mapState .clearDirty,
          (Element.button { Button.new ⟨25, 25, 40, 20⟩ "B" .standard with
            pointerHeld := true, clicked := true }).mapState .clearDirty] }
  bindings := [(⟨2⟩, 7), (⟨1⟩, 8), (⟨2⟩, 9)]
  outcome := none

theorem exec_forgets_input_overlapping :
    overlapping.lasting = overlappingPressed.lasting ∧
    ∃ d t events events',
      (overlapping.exec twoStrokes).run (⟨⟨320, 240⟩, ⟨8, 16⟩, []⟩ : Recorder) =
        .done (d, .resolved 7 6) t events ∧
      (overlappingPressed.exec twoStrokes).run (⟨⟨320, 240⟩, ⟨8, 16⟩, []⟩ : Recorder) =
        .done (d, .resolved 7 6) t events' := by
  have hSame : overlapping.lasting = overlappingPressed.lasting := rfl
  have hResult : ((overlapping.exec twoStrokes).run
      (⟨⟨320, 240⟩, ⟨8, 16⟩, []⟩ : Recorder)).value?.map Prod.snd = some (.resolved 7 6) := by
    decide +kernel
  obtain ⟨⟨d, r⟩, hValue, rfl⟩ := Option.map_eq_some_iff.mp hResult
  obtain ⟨t, events, hRun⟩ := Paint.exists_run_of_value? hValue
  obtain ⟨⟨events', hOther⟩, -⟩ := exec_forgets_input hSame (by decide) hRun
  exact ⟨hSame, d, t, events, events', hRun, hOther⟩

end Run

end ModalDialog

end TouchPanel
