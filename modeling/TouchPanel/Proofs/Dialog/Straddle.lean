import TouchPanel.Proofs.Dialog.Exec

/-!
# Strokes that a run cuts in two

A run drops the input from before, and with it what the buttons remember of a pointer that is
still down. To the buttons the rest of such a stroke is a stroke of its own, so lifting the
pointer can be a click although the press began before the run.

* `exec_resolved_within_stroke_iff` — a run that begins under a pointer held for `k` more ticks is
  resolved by lifting it exactly when the `k` ticks lie on one visible bound button and `k` is not
  zero. What the buttons looked like before makes no difference.
* `straddling_press_resolves` — so a press from before the run is not always dropped.
-/

namespace TouchPanel

namespace ModalDialog

variable {O σ : Type} {d d' : ModalDialog O} {held later : List Tick} {lift : Tick}

/-- In a list that begins with one stroke, no tick before the end of the stroke completes one. -/
theorem CompletesAt.length_le_of_held {i : Nat} {id : ChildId}
    (h : d.CompletesAt (held ++ lift :: later) i id)
    (hHeld : ∀ tick ∈ held, tick.pointer ≠ none) : held.length ≤ i := by
  obtain ⟨⟨tick, hTick, hLifted⟩, -⟩ := h
  by_contra hLt
  rw [Nat.not_le] at hLt
  rw [Option.mem_def, List.getElem?_append_left hLt] at hTick
  exact hHeld tick (List.mem_of_getElem? hTick) hLifted

/-- The tick that ends the stroke completes it on the buttons that carry all of its places. -/
theorem completesAt_lift_iff {id : ChildId} (hHeld : ∀ tick ∈ held, tick.pointer ≠ none)
    (hLift : lift.pointer = none) :
    d.CompletesAt (held ++ lift :: later) held.length id ↔
      d.StrokeOn (held.filterMap Tick.pointer) id := by
  rw [completesAt_length, lastStroke_of_held hHeld, and_iff_right hLift]

section Run

variable [OutcomeLabel O] [Canvas σ] {r : ExecResult O} {s t : σ} {events : List Event}

/-- **A run that begins in the middle of a stroke.** The rest of the stroke resolves the dialog
exactly when it lies on one visible bound button, and it may not be empty. This is asked of no
particular state before the run, so it holds after any ticks. -/
theorem exec_resolved_within_stroke_iff (hHeld : ∀ tick ∈ held, tick.pointer ≠ none)
    (hLift : lift.pointer = none)
    (hRun : (d.exec (held ++ lift :: later)).run s = .done (d', r) t events) :
    (∃ outcome n, r = .resolved outcome n ∧ n ≤ held.length + 1) ↔
      ∃ binding ∈ d.bindings, d.StrokeOn (held.filterMap Tick.pointer) binding.1 := by
  have hAnswers := answers_of_ends_exec (Paint.Ends.of_run hRun)
  refine ⟨fun h => ?_, fun h => ?_⟩
  · -- a tick of the stroke or its end completed a stroke, so it was its end
    obtain ⟨outcome, n, rfl, hLe⟩ := h
    obtain ⟨i, rfl, -, earlier, id, rest, hSplit, hAt, -⟩ := hAnswers
    have hEnd : i = held.length :=
      Nat.le_antisymm (Nat.le_of_succ_le_succ hLe) (hAt.length_le_of_held hHeld)
    rw [hEnd] at hAt
    refine ⟨(id, outcome), ?_, (completesAt_lift_iff hHeld hLift).mp hAt⟩
    rw [hSplit]
    simp
  · obtain ⟨binding, hBinding, hStroke⟩ := h
    have hAt : d.CompletesAt (held ++ lift :: later) held.length binding.1 :=
      (completesAt_lift_iff hHeld hLift).mpr hStroke
    cases r with
    | resolved outcome n =>
      -- the first completed stroke cannot come after this one
      obtain ⟨i, rfl, hBefore, -⟩ := hAnswers
      refine ⟨outcome, i + 1, rfl, Nat.succ_le_succ ?_⟩
      by_contra hLt
      exact hBefore held.length (Nat.not_le.mp hLt) binding hBinding hAt
    | exhausted n => exact absurd hAt (hAnswers.2 held.length binding hBinding)

end Run

/-- Two bound buttons side by side. -/
def sideBySide : ModalDialog UInt32 where
  window :=
    { (Window.new ⟨0, 0, 100, 60⟩ .standard 3 : Window Element) with
      children :=
        [.label (.new ⟨5, 5, 60, 10⟩ "Which?" .standard),
          .button (.new ⟨5, 30, 40, 20⟩ "A" .standard),
          .button (.new ⟨50, 30, 40, 20⟩ "B" .standard)] }
  bindings := [(⟨1⟩, 7), (⟨2⟩, 9)]
  outcome := none

/-- The pointer moves within the second button. -/
def moveWithinSecond : List Tick :=
  [⟨10, some ⟨70, 40⟩⟩, ⟨10, some ⟨52, 31⟩⟩, ⟨10, some ⟨89, 49⟩⟩]

theorem exec_resolved_within_stroke_sideBySide :
    ∃ d r t events,
      (sideBySide.exec (moveWithinSecond ++ ⟨10, none⟩ :: [⟨10, none⟩])).run
        (⟨⟨320, 240⟩, ⟨8, 16⟩, []⟩ : Recorder) = .done (d, r) t events ∧
      ∃ outcome n, r = .resolved outcome n ∧ n ≤ moveWithinSecond.length + 1 := by
  have hDone : ((sideBySide.exec (moveWithinSecond ++ ⟨10, none⟩ :: [⟨10, none⟩])).run
      (⟨⟨320, 240⟩, ⟨8, 16⟩, []⟩ : Recorder)).value?.isSome = true := by
    decide +kernel
  obtain ⟨⟨d, r⟩, hValue⟩ := Option.isSome_iff_exists.mp hDone
  obtain ⟨t, events, hRun⟩ := Paint.exists_run_of_value? hValue
  refine ⟨d, r, t, events, hRun, ?_⟩
  exact (exec_resolved_within_stroke_iff (by decide) rfl hRun).mpr
    ⟨(⟨2⟩, 9), by decide, by decide +kernel⟩

/-- The pointer is put down on the second button in a step before the run. It is held there for
one more tick and lifted in the next one, which resolves the dialog. -/
theorem straddling_press_resolves :
    ∃ d d' s t events events',
      (sideBySide.step .zero ⟨10, some ⟨70, 40⟩⟩).run (⟨⟨320, 240⟩, ⟨8, 16⟩, []⟩ : Recorder) =
        .done d s events ∧
      (d.exec [⟨10, some ⟨70, 40⟩⟩, ⟨10, none⟩]).run s = .done (d', .resolved 9 2) t events' := by
  have hResult : ((sideBySide.step .zero ⟨10, some ⟨70, 40⟩⟩ >>= fun d =>
      d.exec [⟨10, some ⟨70, 40⟩⟩, ⟨10, none⟩]).run
        (⟨⟨320, 240⟩, ⟨8, 16⟩, []⟩ : Recorder)).value?.map Prod.snd =
      some (.resolved 9 2) := by
    decide +kernel
  obtain ⟨⟨d', r⟩, hValue, rfl⟩ := Option.map_eq_some_iff.mp hResult
  obtain ⟨t, events, hRun⟩ := Paint.exists_run_of_value? hValue
  obtain ⟨d, s, before, after, hStep, hExec, -⟩ := Paint.run_bind_eq_done_iff.mp hRun
  exact ⟨d, d', s, t, before, after, hStep, hExec⟩

end ModalDialog

end TouchPanel
