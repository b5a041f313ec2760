import TouchPanel.Proofs.Dialog.Exec
import TouchPanel.Proofs.Step.Edit
import TouchPanel.Proofs.Step.Unfailing

/-!
# Runs as sequences of steps

A dialog that runs is restarted and then stepped, and neither moves it, its children or their texts.
So what is needed for a run to go well can be asked of the dialog once, before the run, if it is a
matter of places and texts.

* `persists_restart`, `persists_of_ends_step` — the dialog and its children remain in their places.
* `succeeds_exec` — a run ends if the steps do of all dialogs in the same places.
* `exists_exec_of_middleInPlane` — a run ends on every canvas that does not fail if the middles of
  the children are in the plane.
-/

namespace TouchPanel

namespace ModalDialog

variable {O σ : Type}

-- ---------------------------------------------------------------------------
-- What a run keeps
-- ---------------------------------------------------------------------------

theorem persists_mapButton_takeClick (d : ModalDialog O) (id : ChildId) :
    d.window.Persists (d.mapButton id fun b => b.takeClick.2).window :=
  d.window.persists_edit id .takeClick fun _ h => nomatch h

theorem persists_mapButton_reset (d : ModalDialog O) (id : ChildId) :
    d.window.Persists (d.mapButton id fun b => b.reset.1).window :=
  d.window.persists_edit id .reset fun _ h => nomatch h

theorem persists_collected (d : ModalDialog O) : d.window.Persists d.collected.window := by
  unfold collected
  split
  · exact .refl d.window
  · exact d.persists_mapButton_takeClick _

theorem persists_of_ends_step [OutcomeLabel O] [Canvas σ] {d d' : ModalDialog O} {origin : Point}
    {tick : Tick} {s t : σ} (h : (d.step origin tick).Ends s d' t) :
    d.window.Persists d'.window := by
  cases hOutcome : d.outcome.isSome with
  | true =>
    obtain ⟨rfl, -⟩ := (ends_step_of_resolved hOutcome).mp h
    exact .refl d'.window
  | false =>
    obtain ⟨window, hWindow, rfl⟩ := (ends_step_of_unresolved hOutcome).mp h
    obtain rfl := d.window.sound_of_elements.next_of_ends hWindow
    have hCollected :=
      persists_collected ({ d with window := StepModel.next origin tick d.window } : ModalDialog O)
    exact (d.window.persists_next origin tick).trans hCollected

theorem persists_resetButtons (d : ModalDialog O) (ids : List ChildId) :
    d.window.Persists (d.resetButtons ids).1.window := by
  induction ids generalizing d with
  | nil => exact .refl d.window
  | cons first rest ih => exact (d.persists_mapButton_reset first).trans (ih _)

theorem persists_restart (d : ModalDialog O) : d.window.Persists d.restart.1.window := by
  have hReset := persists_resetButtons ({ d with outcome := none } : ModalDialog O)
    (d.bindings.map Prod.fst)
  exact hReset.trans ⟨⟨rfl, fun _ e he => ⟨e, he, .refl e⟩⟩, rfl⟩

-- ---------------------------------------------------------------------------
-- Runs that end
-- ---------------------------------------------------------------------------

section Run

variable [OutcomeLabel O] [Canvas σ] {ready : σ → Prop} {w : Window Element}

theorem succeeds_pump
    (hStep : ∀ e : ModalDialog O, w.Persists e.window → ∀ tick,
      (e.step .zero tick : Paint σ (ModalDialog O)).Succeeds ready)
    (ticks : List Tick) (taken : Nat) {e : ModalDialog O} (hPersists : w.Persists e.window)
    {s : σ} (hReady : ready s) :
    ∃ d' r t, (e.pump taken ticks).Ends s (d', r) t ∧ ready t ∧ w.Persists d'.window := by
  induction ticks generalizing taken e s with
  | nil => exact ⟨e, _, s, Paint.ends_pure.mpr ⟨rfl, rfl⟩, hReady, hPersists⟩
  | cons tick rest ih =>
    obtain ⟨e', u, hEnds, hReady⟩ := hStep e hPersists tick s hReady
    have hPersists := hPersists.trans (persists_of_ends_step hEnds)
    rw [pump]
    cases hOutcome : e'.outcome with
    | some outcome =>
      refine ⟨e', .resolved outcome (taken + 1), u, Paint.ends_bind.mpr ⟨e', u, hEnds, ?_⟩, hReady,
        hPersists⟩
      rw [hOutcome]
      exact Paint.ends_pure.mpr ⟨rfl, rfl⟩
    | none =>
      obtain ⟨d', r, t, hPump, hReady, hPersists⟩ := ih (taken + 1) hPersists hReady
      refine ⟨d', r, t, Paint.ends_bind.mpr ⟨e', u, hEnds, ?_⟩, hReady, hPersists⟩
      rw [hOutcome]
      exact hPump

/-- **A run ends** if the steps end of all dialogs in the same places with the same texts. -/
theorem succeeds_exec
    (hStep : ∀ e : ModalDialog O, w.Persists e.window → ∀ tick,
      (e.step .zero tick : Paint σ (ModalDialog O)).Succeeds ready)
    (ticks : List Tick) {e : ModalDialog O} (hPersists : w.Persists e.window)
    {s : σ} (hReady : ready s) :
    ∃ d' r t, (e.exec ticks).Ends s (d', r) t ∧ ready t ∧ w.Persists d'.window := by
  obtain ⟨d', r, t, hPump, hEnd⟩ :=
    succeeds_pump hStep ticks 0 (hPersists.trans e.persists_restart) hReady
  refine ⟨d', r, t, ?_, hEnd⟩
  simp only [exec, Paint.ends_bind, Paint.ends_report]
  exact ⟨(), s, rfl, (), s, rfl, hPump⟩

end Run

-- ---------------------------------------------------------------------------
-- Runs that cannot fail
-- ---------------------------------------------------------------------------

section Middle

/-- What a text is moved by depends on the kind and the place of an element only. -/
theorem middleInPlane_of_stays {e e' : Element} (h : e.Stays e') {area : Rect}
    (hMiddle : e.MiddleInPlane area) : e'.MiddleInPlane area := by
  have hKind := h.kind
  cases e with
  | label l =>
    cases e' with
    | label l' => exact hMiddle
    | button b' => cases hKind
  | button b =>
    cases e' with
    | label l' => cases hKind
    | button b' => exact hMiddle

variable [OutcomeLabel O] {d e : ModalDialog O}

/-- A step cannot fail if the middles of the children are in the plane. -/
theorem unfailing_of_middleInPlane {origin : Point}
    (hMiddle : ∀ child ∈ d.window.children,
      child.MiddleInPlane (child.state.globalBounds (d.window.state.globalPosition origin)))
    (hStays : d.window.Stays e.window) (tick : Tick) : Widget.Unfailing origin tick e := by
  refine unfailing_of_drawable fun _ child hChild _ _ => ?_
  obtain ⟨i, hi⟩ := List.getElem?_of_mem hChild
  obtain ⟨before, hBefore, hMarked, -⟩ := Window.exists_of_getElem?_marked hi
  obtain ⟨first, hFirst, hSame⟩ := hStays.children i before hBefore
  have hChildStays : first.Stays child := hSame.trans hMarked
  refine Element.writable_blank_iff.mpr ?_
  rw [hStays.globalPosition, hChildStays.globalBounds]
  exact middleInPlane_of_stays (hChildStays.trans (child.stays_followed _ tick))
    (hMiddle first (List.mem_of_getElem? hFirst))

/-- **Runs that cannot fail.** If the middles of the children are in the plane, then every run ends
on every canvas that does not fail. -/
theorem exists_exec_of_middleInPlane [Canvas σ] {ready : σ → Prop}
    (hCanvas : Canvas.Unfailing ready)
    (hMiddle : ∀ child ∈ d.window.children,
      child.MiddleInPlane (child.state.globalBounds (d.window.state.globalPosition .zero)))
    (ticks : List Tick) {s : σ} (hReady : ready s) : ∃ d' r t, (d.exec ticks).Ends s (d', r) t := by
  have hStep (e : ModalDialog O) (hPersists : d.window.Persists e.window) (tick : Tick) :
      (e.step .zero tick : Paint σ (ModalDialog O)).Succeeds ready :=
    unfailing_of_middleInPlane hMiddle hPersists.toStays tick σ ready hCanvas
  obtain ⟨d', r, t, hEnds, -⟩ := succeeds_exec hStep ticks (.refl d.window) hReady
  exact ⟨d', r, t, hEnds⟩

end Middle

end ModalDialog

end TouchPanel
