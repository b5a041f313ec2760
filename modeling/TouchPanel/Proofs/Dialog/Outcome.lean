import TouchPanel.Proofs.Dialog.Operation

/-!
# The outcome of a dialog is written once

Whatever is done to a dialog outside of a run, and in whatever order: its outcome is written by at
most one tick, and remains. Buttons may overlap, be bound several times or be hidden, and clicks
may be latched before they are bound, so the tick is not told by what the pointer does. It is told
by the clicks that are latched when the dialog looks through them.

* `Clicked`, `Elects` — the click that a look through the clicks takes.
* `Resolves`          — a tick that writes the outcome, with an account of all clicks.
* `resolves_of_ends_step` — one tick.
* `outcome_of_ends_performAll` — an outcome remains.
* `outcome_written_once` — whole runs.
-/

namespace TouchPanel

namespace ModalDialog

variable {O σ : Type}

/-- The button of a name has a click latched. -/
def Clicked (d : ModalDialog O) (id : ChildId) : Prop := ∃ b ∈ d.button? id, b.clicked = true

theorem clicked_iff_any {d : ModalDialog O} {id : ChildId} :
    d.Clicked id ↔ (d.button? id).any Button.clicked = true := by
  rw [Clicked, Option.any_eq_true]
  rfl

/-- The binding of a button to an outcome is the earliest of the bindings whose button has a click
latched. -/
def Elects (d : ModalDialog O) (id : ChildId) (outcome : O) : Prop :=
  ∃ earlier later, d.bindings = earlier ++ (id, outcome) :: later ∧ d.Clicked id ∧
    ∀ binding ∈ earlier, ¬d.Clicked binding.1

theorem elects_iff {d : ModalDialog O} {id : ChildId} {outcome : O} :
    d.Elects id outcome ↔ d.clickedBinding? = some (id, outcome) := by
  simp only [Elects, clicked_iff_any, clickedBinding?, List.find?_eq_some_iff_append,
    Bool.not_eq_true, Bool.not_eq_eq_eq_not, Bool.not_true]
  constructor
  · intro h
    obtain ⟨earlier, later, hSplit, hClicked, hEarlier⟩ := h
    exact ⟨hClicked, earlier, later, hSplit, hEarlier⟩
  · intro h
    obtain ⟨hClicked, earlier, later, hSplit, hEarlier⟩ := h
    exact ⟨earlier, later, hSplit, hClicked, hEarlier⟩

/-- A tick turned the dialog `d` into `d'` and wrote its outcome. When the clicks were looked
through, the dialog was `scanned`: it had the clicks of `d` and maybe new ones, and just that of the
elected button was taken. -/
structure Resolves (d scanned d' : ModalDialog O) (id : ChildId) (outcome : O) : Prop where
  elected : scanned.Elects id outcome
  outcome : d'.outcome = some outcome
  kept : ∀ other, d.Clicked other → scanned.Clicked other
  taken : ∀ other, d'.Clicked other ↔ scanned.Clicked other ∧ other ≠ id

-- ---------------------------------------------------------------------------
-- One tick
-- ---------------------------------------------------------------------------

/-- No click is lost in the turn of a button. -/
theorem clicked_turned_of_clicked {b : Button} (h : b.clicked = true) (place : Point) (tick : Tick) :
    (turned place tick b).clicked = true := by
  unfold turned
  split
  · show (b.track _ _).1.clicked = true
    rw [Button.clicked_track, h, Bool.true_or]
  · exact h

/-- No click is lost in a step of the window. -/
theorem Clicked.next {d : ModalDialog O} {id : ChildId} (h : d.Clicked id) (origin : Point)
    (tick : Tick) :
    ({ d with window := StepModel.next origin tick d.window } : ModalDialog O).Clicked id := by
  obtain ⟨b, hb, hClicked⟩ := h
  refine ⟨_, ?_, clicked_turned_of_clicked (b := if d.window.state.dirty then Widget.markDirty b
    else b) ?_ (d.window.state.globalPosition origin) tick⟩
  · rw [button?_next, hb]
    rfl
  · split
    · exact hClicked
    · exact hClicked

/-- Taking a click takes no other one. -/
theorem clicked_mapButton_takeClick {d : ModalDialog O} {id other : ChildId} :
    (d.mapButton id fun b => b.takeClick.2).Clicked other ↔ d.Clicked other ∧ other ≠ id := by
  simp only [Clicked, button?_mapButton]
  cases d.button? other with
  | none => simp
  | some b =>
    by_cases hSame : id = other
    · simp [hSame, Button.takeClick]
    · simp [hSame, Ne.symm hSame]

section Ticks

variable [OutcomeLabel O] [Canvas σ] {d d' : ModalDialog O} {origin : Point} {tick : Tick}
  {s t : σ}

/-- **One tick of an unresolved dialog.** It leaves the dialog unresolved, or it takes the elected
click and writes its outcome. -/
theorem resolves_of_ends_step (hUnresolved : d.outcome = none)
    (h : (d.step origin tick).Ends s d' t) :
    d'.outcome = none ∨ ∃ window id outcome, (d.window.step origin tick).Ends s window t ∧
      d.Resolves { d with window } d' id outcome := by
  have hUnfinished : d.outcome.isSome = false := by rw [hUnresolved]; rfl
  obtain ⟨window, hWindow, rfl⟩ := (ends_step_of_unresolved hUnfinished).mp h
  have hNext : window = StepModel.next origin tick d.window :=
    d.window.sound_of_elements.next_of_ends hWindow
  cases hScan : ({ d with window } : ModalDialog O).clickedBinding? with
  | none =>
    left
    rw [collected, hScan]
    exact hUnresolved
  | some binding =>
    obtain ⟨id, outcome⟩ := binding
    have hCollected : ({ d with window } : ModalDialog O).collected =
        { ({ d with window } : ModalDialog O).mapButton id fun b => b.takeClick.2 with
          outcome := some outcome } := by
      rw [collected, hScan]
    refine .inr ⟨window, id, outcome, hWindow, elects_iff.mpr hScan, ?_, ?_, ?_⟩
    · rw [hCollected]
    · intro other hClicked
      rw [hNext]
      exact hClicked.next origin tick
    · intro other
      rw [hCollected]
      exact clicked_mapButton_takeClick

/-- **A tick of a resolved dialog does nothing**, on no canvas. -/
theorem run_step_of_resolved (hResolved : d.outcome.isSome = true) (s : σ) :
    (d.step origin tick).run s = .done d s [] := by
  rw [step, if_pos hResolved]
  rfl

end Ticks

theorem drawnBy_step_of_resolved [OutcomeLabel O] [Canvas σ] {d : ModalDialog O}
    (hResolved : d.outcome.isSome = true) (origin : Point) (tick : Tick) (s : σ) :
    Canvas.drawnBy (d.step origin tick) s = [] := by
  rw [Canvas.drawnBy, run_step_of_resolved hResolved]
  rfl

end ModalDialog

-- ---------------------------------------------------------------------------
-- Whole runs
-- ---------------------------------------------------------------------------

namespace DialogOperation

open ModalDialog

variable {O σ : Type} [OutcomeLabel O] [Canvas σ] {d d' : ModalDialog O} {s t : σ}

/-- An outcome remains, whatever is done to the dialog next. -/
theorem outcome_of_ends_perform {operation : DialogOperation O} {outcome : O}
    (hOutcome : d.outcome = some outcome) (h : (operation.perform d).Ends s d' t) :
    d'.outcome = some outcome := by
  rcases perform_cases h with ⟨reached, hTick, u, v, hStep⟩ | ⟨-, hSame, -⟩
  · have hFound : reached.found.outcome = some outcome := by
      rw [(found_of_tick? hTick).1, hOutcome]
    have hResolved : reached.found.outcome.isSome = true := by rw [hFound]; rfl
    obtain ⟨rfl, -⟩ := (ends_step_of_resolved hResolved).mp hStep
    exact hFound
  · rw [hSame, hOutcome]

/-- **An outcome remains**, whatever is done to the dialog. -/
theorem outcome_of_ends_performAll {operations : List (DialogOperation O)} {outcome : O}
    (hOutcome : d.outcome = some outcome) (h : (performAll operations d).Ends s d' t) :
    d'.outcome = some outcome := by
  induction operations generalizing d s with
  | nil =>
    obtain ⟨rfl, -⟩ := Paint.ends_pure.mp h
    exact hOutcome
  | cons operation rest ih =>
    obtain ⟨e, u, hPerform, hRest⟩ := Paint.ends_bind.mp h
    exact ih (outcome_of_ends_perform hOutcome hPerform) hRest

/-- An operation that writes the outcome gives the dialog a tick that resolves it. -/
theorem exists_resolves {operation : DialogOperation O} (h : (operation.perform d).Ends s d' t)
    (hUnresolved : d.outcome = none) (hWritten : d'.outcome ≠ none) :
    ∃ reached, operation.tick? d = some reached ∧
      ∃ window, (∃ u v : σ, (reached.found.window.step reached.place reached.tick).Ends u window v) ∧
        ∃ id outcome, d.Resolves { reached.found with window } d' id outcome := by
  rcases perform_cases h with ⟨reached, hTick, u, v, hStep⟩ | ⟨-, hSame, -⟩
  · obtain ⟨hOutcome, hButtons, -⟩ := found_of_tick? hTick
    have hFound : reached.found.outcome = none := by rw [hOutcome, hUnresolved]
    rcases resolves_of_ends_step hFound hStep with hNone | ⟨window, id, outcome, hWindow, hResolves⟩
    · exact absurd hNone hWritten
    · refine ⟨reached, hTick, window, ⟨u, v, hWindow⟩, id, outcome, hResolves.elected,
        hResolves.outcome, fun other hClicked => hResolves.kept other ?_, hResolves.taken⟩
      rw [Clicked, hButtons]
      exact hClicked
  · rw [hSame] at hWritten
    exact absurd hUnresolved hWritten

/-- **The outcome is written once.** Any operation may be singled out from a run over operations
that all end without a fault. If it changes the outcome, then there was none up to then, and the
operation gives the dialog a tick that resolves it. And if there is an outcome after it, then that
one remains to the end of the run, where any tick that reaches the dialog draws nothing, and leaves
the dialog as the tick finds it, whatever the canvas. -/
theorem outcome_written_once {earlier later : List (DialogOperation O)}
    {operation : DialogOperation O} {d d₁ d₂ d₃ : ModalDialog O} {s s₁ s₂ s₃ : σ}
    (hEarlier : (performAll earlier d).Ends s d₁ s₁)
    (hOperation : (operation.perform d₁).Ends s₁ d₂ s₂)
    (hLater : (performAll later d₂).Ends s₂ d₃ s₃) :
    (d₂.outcome ≠ d₁.outcome → d.outcome = none ∧ d₁.outcome = none ∧
      ∃ reached, operation.tick? d₁ = some reached ∧
        ∃ window,
          (∃ u v : σ, (reached.found.window.step reached.place reached.tick).Ends u window v) ∧
          ∃ id outcome, d₁.Resolves { reached.found with window } d₂ id outcome) ∧
    ∀ outcome, d₂.outcome = some outcome → d₃.outcome = some outcome ∧
      ∀ (next : DialogOperation O) (reached : DialogTick O), next.tick? d₃ = some reached →
        reached.found.outcome = some outcome ∧
        ∀ {τ : Type} [Canvas τ] (u : τ),
          (reached.found.step reached.place reached.tick).run u = .done reached.found u [] ∧
          Canvas.drawnBy (reached.found.step reached.place reached.tick) u = [] ∧
          ∀ d' v, (next.perform d₃).Ends u d' v → d' = reached.found := by
  refine ⟨fun hChanged => ?_, fun outcome hOutcome => ⟨?_, fun next reached hTick => ?_⟩⟩
  · -- an outcome that was there before would have remained
    have hUnresolved : d₁.outcome = none := by
      by_contra hSome
      obtain ⟨outcome, hSome⟩ := Option.ne_none_iff_exists'.mp hSome
      rw [hSome, outcome_of_ends_perform hSome hOperation] at hChanged
      exact hChanged rfl
    have hFirst : d.outcome = none := by
      by_contra hSome
      obtain ⟨outcome, hSome⟩ := Option.ne_none_iff_exists'.mp hSome
      rw [outcome_of_ends_performAll hSome hEarlier] at hUnresolved
      cases hUnresolved
    rw [hUnresolved] at hChanged
    exact ⟨hFirst, hUnresolved, exists_resolves hOperation hUnresolved hChanged⟩
  · exact outcome_of_ends_performAll hOutcome hLater
  · have hRemains : reached.found.outcome = some outcome := by
      rw [(found_of_tick? hTick).1]
      exact outcome_of_ends_performAll hOutcome hLater
    have hResolved : reached.found.outcome.isSome = true := by rw [hRemains]; rfl
    refine ⟨hRemains, fun {τ} _ u => ⟨run_step_of_resolved hResolved u,
      drawnBy_step_of_resolved hResolved _ _ u, fun d' v hPerform => ?_⟩⟩
    rcases perform_cases hPerform with ⟨other, hOther, w, w', hStep⟩ | ⟨hNone, -⟩
    · obtain rfl : reached = other := Option.some.inj (hTick.symm.trans hOther)
      exact ((ends_step_of_resolved hResolved).mp hStep).1
    · rw [hTick] at hNone
      cases hNone

/-- A dirty window with a label and a dialog in it. -/
def owner : Window (Node UInt32) :=
  { (Window.new ⟨10, 20, 300, 200⟩ .standard 2 : Window (Node UInt32)) with
    children :=
      [.element (.label (.new ⟨4, 8, 30, 20⟩ "?" .standard)),
        .dialog (.new ⟨20, 30, 100, 60⟩ .standard 3)] }

/-- Two buttons are added. The first one is hidden, and both are clicked before they are bound, the
first one twice. -/
def assembly : List (DialogOperation UInt32) :=
  [.add (.button (.new ⟨5, 30, 40, 20⟩ "A" .standard)),
    .tryAdd (.button (.new ⟨25, 35, 40, 20⟩ "B" .standard)),
    .arrangeChild ⟨0⟩ (.setVisible false), .editChild ⟨0⟩ .click, .editChild ⟨1⟩ .click,
    .bind ⟨0⟩ 8, .bind ⟨1⟩ 7, .bind ⟨2⟩ 5, .bind ⟨0⟩ 9]

/-- More clicks and ticks, and a new place. -/
def aftermath : List (DialogOperation UInt32) :=
  [.editChild ⟨0⟩ .click, .step ⟨3, 3⟩ ⟨10, some ⟨30, 40⟩⟩, .arrange (.moveTo ⟨1, 1⟩),
    .stepOwner owner ⟨1, by decide⟩ .zero ⟨10, none⟩, .arrange .clearDirty]

theorem outcome_written_once_hiddenButton :
    ∃ d₁ d₂ d₃ s₁ s₂ s₃,
      (performAll assembly (.new ⟨20, 30, 100, 60⟩ .standard 3)).Ends
        (⟨⟨320, 240⟩, ⟨8, 16⟩, []⟩ : Recorder) d₁ s₁ ∧
      ((stepOwner owner ⟨1, by decide⟩ .zero ⟨10, none⟩).perform d₁).Ends s₁ d₂ s₂ ∧
      (performAll aftermath d₂).Ends s₂ d₃ s₃ ∧
      d₁.outcome = none ∧ d₂.outcome = some 8 ∧ d₃.outcome = some 8 ∧
        ∃ id, ∀ other, d₁.Clicked other → d₂.Clicked other ∨ other = id := by
  have hResult : ((do
      let d₁ ← performAll assembly (.new ⟨20, 30, 100, 60⟩ .standard 3)
      let d₂ ← (stepOwner owner ⟨1, by decide⟩ .zero ⟨10, none⟩).perform d₁
      let _ ← performAll aftermath d₂
      return (d₁.outcome, d₂.outcome)).run
        (⟨⟨320, 240⟩, ⟨8, 16⟩, []⟩ : Recorder)).value? = some (none, some 8) := by
    decide +kernel
  obtain ⟨s₃, events, hRun⟩ := Paint.exists_run_of_value? hResult
  obtain ⟨d₁, s₁, hEarlier, hRest⟩ := Paint.ends_bind.mp (Paint.Ends.of_run hRun)
  obtain ⟨d₂, s₂, hOperation, hRest⟩ := Paint.ends_bind.mp hRest
  obtain ⟨d₃, _, hLater, hEnd⟩ := Paint.ends_bind.mp hRest
  obtain ⟨hOutcomes, rfl⟩ := Paint.ends_pure.mp hEnd
  rw [Prod.mk.injEq] at hOutcomes
  obtain ⟨hNone, hSome⟩ := hOutcomes
  obtain ⟨hWritten, hRemains⟩ := outcome_written_once hEarlier hOperation hLater
  have hChanged : d₂.outcome ≠ d₁.outcome := by
    rw [← hNone, ← hSome]
    exact Option.some_ne_none 8
  obtain ⟨-, -, reached, -, window, -, id, outcome, hResolves⟩ := hWritten hChanged
  refine ⟨d₁, d₂, d₃, s₁, s₂, s₃, hEarlier, hOperation, hLater, hNone.symm, hSome.symm,
    (hRemains 8 hSome.symm).1, id, fun other hClicked => ?_⟩
  by_cases hTaken : other = id
  · exact .inr hTaken
  · exact .inl ((hResolves.taken other).mpr ⟨hResolves.kept other hClicked, hTaken⟩)

end DialogOperation

end TouchPanel
