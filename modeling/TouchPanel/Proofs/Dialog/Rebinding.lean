import TouchPanel.Proofs.Dialog.Outcome

/-!
# Buttons that are bound again

A dialog keeps all bindings, the later ones after the earlier ones, and looks through them from the
first on. So of several bindings of one button only the earliest ever resolves the dialog. Binding a
button again is accepted, as long as there is room, and has no effect.

* `Elects.lookup`            — the click that is taken counts for the earliest binding of its button.
* `bindings_of_ends_performAll` — only a binding changes the bindings.
* `bind_takes_effect_iff`    — so a binding takes effect if the button had none, or one to the same
  outcome.
* `bind_again_ignored`       — and otherwise it has none.
-/

namespace TouchPanel

variable {O σ : Type}

-- ---------------------------------------------------------------------------
-- Bindings of one button
-- ---------------------------------------------------------------------------

namespace ModalDialog

variable {d d' : ModalDialog O} {id : ChildId} {outcome : O}

/-- The elected click counts for the earliest binding of its button. -/
theorem Elects.lookup (h : d.Elects id outcome) : d.bindings.lookup id = some outcome := by
  obtain ⟨earlier, later, hSplit, hClicked, hEarlier⟩ := h
  refine List.lookup_eq_some_iff.mpr ⟨earlier, later, hSplit, fun binding hBinding => ?_⟩
  refine bne_iff_ne.mpr fun hSame => hEarlier binding hBinding ?_
  rw [← hSame]
  exact hClicked

/-- If there is just one bound button with a click, then its click is elected. -/
theorem exists_elects (hBound : id ∈ d.bindings.map Prod.fst) (hClicked : d.Clicked id)
    (hOnly : ∀ binding ∈ d.bindings, d.Clicked binding.1 → binding.1 = id) :
    ∃ outcome, d.Elects id outcome := by
  obtain ⟨binding, hBinding, rfl⟩ := List.mem_map.mp hBound
  cases hScan : d.clickedBinding? with
  | none =>
    have hNone := List.find?_eq_none.mp hScan binding hBinding
    exact absurd (clicked_iff_any.mp hClicked) hNone
  | some elected =>
    obtain ⟨earlier, later, hSplit, hElected, -⟩ := elects_iff.mpr hScan
    have hMem : elected ∈ d.bindings := by
      rw [hSplit]
      simp
    rw [← hOnly elected hMem hElected]
    exact ⟨elected.2, elects_iff.mpr hScan⟩

theorem outcome_collected (h : d.Elects id outcome) : d.collected.outcome = some outcome := by
  rw [collected, elects_iff.mp h]

theorem bindings_collected (d : ModalDialog O) : d.collected.bindings = d.bindings := by
  rw [collected]
  split <;> rfl

theorem bindings_of_ends_step [OutcomeLabel O] [Canvas σ] {origin : Point} {tick : Tick} {s t : σ}
    (h : (d.step origin tick).Ends s d' t) : d'.bindings = d.bindings := by
  cases hOutcome : d.outcome.isSome with
  | true => rw [((ends_step_of_resolved hOutcome).mp h).1]
  | false =>
    obtain ⟨window, -, rfl⟩ := (ends_step_of_unresolved hOutcome).mp h
    exact bindings_collected _

end ModalDialog

-- ---------------------------------------------------------------------------
-- Bindings in a run
-- ---------------------------------------------------------------------------

/-- The dialog when its clicks are looked through in a tick: its window has been stepped. -/
def DialogTick.scanned (reached : DialogTick O) : ModalDialog O :=
  { reached.found with
    window := StepModel.next reached.place reached.tick reached.found.window }

namespace DialogOperation

open ModalDialog

variable [OutcomeLabel O] [Canvas σ] {d d' : ModalDialog O} {s t : σ}

/-- Bindings stay as they are as long as none is added. -/
theorem bindings_of_ends_perform {operation : DialogOperation O} (hOther : operation.binds = false)
    (h : (operation.perform d).Ends s d' t) : d'.bindings = d.bindings := by
  rcases perform_cases h with ⟨reached, hTick, u, v, hStep⟩ | ⟨-, -, hSame⟩
  · rw [bindings_of_ends_step hStep, (found_of_tick? hTick).2.2]
  · exact hSame hOther

theorem bindings_of_ends_performAll {operations : List (DialogOperation O)}
    (hOther : ∀ operation ∈ operations, operation.binds = false)
    (h : (performAll operations d).Ends s d' t) : d'.bindings = d.bindings := by
  induction operations generalizing d s with
  | nil =>
    obtain ⟨rfl, -⟩ := Paint.ends_pure.mp h
    rfl
  | cons operation rest ih =>
    obtain ⟨hFirst, hRest⟩ := List.forall_mem_cons.mp hOther
    obtain ⟨e, u, hPerform, hEnds⟩ := Paint.ends_bind.mp h
    rw [ih hRest hEnds, bindings_of_ends_perform hFirst hPerform]

/-- An operation that gives an unresolved dialog a tick leaves it as the look through the clicks
does. -/
theorem eq_collected_of_tick? {operation : DialogOperation O} {reached : DialogTick O}
    (hTick : operation.tick? d = some reached) (hUnresolved : d.outcome = none)
    (h : (operation.perform d).Ends s d' t) : d' = reached.scanned.collected := by
  rcases perform_cases h with ⟨other, hOther, u, v, hStep⟩ | ⟨hNone, -⟩
  · obtain rfl : reached = other := Option.some.inj (hTick.symm.trans hOther)
    have hFound : reached.found.outcome.isSome = false := by
      rw [(found_of_tick? hTick).1, hUnresolved]
      rfl
    obtain ⟨window, hWindow, rfl⟩ := (ends_step_of_unresolved hFound).mp hStep
    rw [reached.found.window.sound_of_elements.next_of_ends hWindow]
    rfl
  · rw [hTick] at hNone
    cases hNone

/-- **When a binding takes effect.** Let a button be bound, and let anything but another binding be
done to the dialog afterwards. If a tick finds the dialog unresolved, and the button is the only bound
one that has a click when the clicks are looked through, then the dialog is resolved to the outcome
that the button was bound to first. That is the one it was bound to last exactly when it had no binding
before, or the earliest of these was to the same outcome. -/
theorem bind_takes_effect_iff {d d₀ d₁ d₂ : ModalDialog O} {s s₁ s₂ : σ} {id : ChildId} {outcome : O}
    {later : List (DialogOperation O)} {last : DialogOperation O} {reached : DialogTick O}
    (hBind : d.bind id outcome = .ok d₀)
    (hOther : ∀ operation ∈ later, operation.binds = false)
    (hLater : (performAll later d₀).Ends s d₁ s₁) (hUnresolved : d₁.outcome = none)
    (hTick : last.tick? d₁ = some reached) (hLast : (last.perform d₁).Ends s₁ d₂ s₂)
    (hClicked : reached.scanned.Clicked id)
    (hOnly : ∀ binding ∈ d₁.bindings, reached.scanned.Clicked binding.1 → binding.1 = id) :
    d₂.outcome = some ((d.bindings.lookup id).getD outcome) ∧
      (d₂.outcome = some outcome ↔ ∀ first ∈ d.bindings.lookup id, first = outcome) := by
  have hBindings : d₁.bindings = d.bindings ++ [(id, outcome)] := by
    rw [bindings_of_ends_performAll hOther hLater, eq_of_bind hBind]
  have hScanned : reached.scanned.bindings = d₁.bindings := (found_of_tick? hTick).2.2
  have hFirst : d₁.bindings.lookup id = some ((d.bindings.lookup id).getD outcome) := by
    rw [hBindings, List.lookup_append, List.lookup_cons_self]
    cases d.bindings.lookup id <;> rfl
  obtain ⟨elected, hElects⟩ : ∃ elected, reached.scanned.Elects id elected := by
    refine exists_elects ?_ hClicked (hScanned ▸ hOnly)
    rw [hScanned, hBindings]
    simp
  have hElected : elected = (d.bindings.lookup id).getD outcome := by
    have hLookup := hElects.lookup
    rw [hScanned, hFirst] at hLookup
    exact (Option.some.inj hLookup).symm
  have hOutcome : d₂.outcome = some ((d.bindings.lookup id).getD outcome) := by
    rw [eq_collected_of_tick? hTick hUnresolved hLast, outcome_collected hElects, hElected]
  refine ⟨hOutcome, ?_⟩
  rw [hOutcome, Option.some.injEq]
  cases d.bindings.lookup id <;> simp

/-- Two buttons, the first of which is bound. -/
def firstBound : ModalDialog UInt32 where
  window :=
    { (Window.new ⟨0, 0, 100, 60⟩ .standard 2 : Window Element) with
      children := [.button (.new ⟨5, 30, 40, 20⟩ "A" .standard),
        .button (.new ⟨50, 30, 40, 20⟩ "B" .standard)] }
  bindings := [(⟨0⟩, 7)]
  outcome := none

/-- A button of a dialog is bound, and the pointer is put down at a place and lifted. When the clicks are
looked through after that, the dialog is unresolved, and of its bound buttons only this one has a
click. -/
def Tapped (d : ModalDialog UInt32) (id : ChildId) (outcome : UInt32) (place : Point)
    (d₂ : ModalDialog UInt32) : Prop :=
  ∃ (d₀ d₁ : ModalDialog UInt32) (s₁ s₂ : Recorder) (reached : DialogTick UInt32),
    d.bind id outcome = .ok d₀ ∧
    (performAll [.step .zero ⟨10, some place⟩] d₀).Ends ⟨⟨320, 240⟩, ⟨8, 16⟩, []⟩ d₁ s₁ ∧
    d₁.outcome = none ∧ (step .zero ⟨10, none⟩).tick? d₁ = some reached ∧
    ((step .zero ⟨10, none⟩).perform d₁).Ends s₁ d₂ s₂ ∧ reached.scanned.Clicked id ∧
    ∀ binding ∈ d₁.bindings, reached.scanned.Clicked binding.1 → binding.1 = id

/-- The second button is bound for the first time. -/
theorem bind_takes_effect_iff_secondButton :
    ∃ d, Tapped firstBound ⟨1⟩ 9 ⟨60, 40⟩ d ∧ d.outcome = some 9 := by
  obtain ⟨d₂, hTapped⟩ : ∃ d, Tapped firstBound ⟨1⟩ 9 ⟨60, 40⟩ d := by
    refine ⟨_, _, _, _, _, _, rfl, .of_run rfl, rfl, rfl, .of_run rfl, ⟨_, rfl, rfl⟩, ?_⟩
    simp only [clicked_iff_any]
    decide +kernel
  refine ⟨d₂, hTapped, ?_⟩
  obtain ⟨d₀, d₁, s₁, s₂, reached, hBind, hLater, hUnresolved, hTick, hLast, hClicked, hOnly⟩ :=
    hTapped
  refine (bind_takes_effect_iff hBind (by decide) hLater hUnresolved hTick hLast hClicked
    hOnly).2.mpr fun first hFirst => ?_
  cases hFirst

/-- The first button is bound once more. The click counts for its first binding. -/
theorem bind_again_ignored :
    ∃ d, Tapped firstBound ⟨0⟩ 9 ⟨10, 40⟩ d ∧ d.outcome = some 7 := by
  refine ⟨_, ⟨_, _, _, _, _, rfl, .of_run rfl, rfl, rfl, .of_run rfl, ⟨_, rfl, rfl⟩, ?_⟩, rfl⟩
  simp [firstBound]

end DialogOperation

end TouchPanel
