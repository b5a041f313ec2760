import TouchPanel.Proofs.Dialog.Places
import TouchPanel.Proofs.Dialog.Run
import TouchPanel.Proofs.Dialog.Straddle

/-!
# When an accept dialog can be answered

An accept dialog in the usual area of a canvas keeps the panel until one of its buttons is clicked.
On a small canvas, or with a large padding, the buttons have no area, and nothing that the pointer
does will ever click them. Otherwise each of them can be clicked by tapping its corner.

* `resolvesAt_tap` — a tap resolves a dialog if it is on a bound button.
* `strokeOn_dialog` — the strokes on a button of an accept dialog.
* `exec_answerable` — a run in the usual area can be answered in both ways or in none.
-/

namespace TouchPanel

-- ---------------------------------------------------------------------------
-- Taps
-- ---------------------------------------------------------------------------

/-- The pointer is put down at a place and lifted. -/
def tap (place : Point) : List Tick := [⟨10, some place⟩, ⟨10, none⟩]

theorem Rect.carries_singleton {area : Rect} {place : Point} :
    area.Carries [place] ↔ area.contains place = true := by
  simp [Carries]

namespace ModalDialog

/-- A tap on a bound button resolves a dialog, unless it is on a button that is bound earlier. -/
theorem resolvesAt_tap {O : Type} {d : ModalDialog O} {place : Point} {id : ChildId} {outcome : O}
    {earlier later : List (ChildId × O)} (hBindings : d.bindings = earlier ++ (id, outcome) :: later)
    (hOn : d.StrokeOn [place] id) (hEarlier : ∀ binding ∈ earlier, ¬d.StrokeOn [place] binding.1) :
    d.ResolvesAt (tap place) 2 outcome := by
  have hHeld : ∀ tick ∈ [(⟨10, some place⟩ : Tick)], tick.pointer ≠ none := by simp
  have hLifted (other : ChildId) :
      d.CompletesAt (tap place) 1 other ↔ d.StrokeOn [place] other :=
    completesAt_lift_iff hHeld rfl
  refine ⟨1, rfl, fun j hj binding _ hAt => ?_, earlier, id, later, hBindings,
    (hLifted id).mpr hOn, fun binding hBinding => ?_⟩
  · -- nothing is completed before the pointer is lifted
    exact absurd (CompletesAt.length_le_of_held hAt hHeld) (Nat.not_le.mpr hj)
  · rw [hLifted]
    exact hEarlier binding hBinding

end ModalDialog

namespace AcceptDialog

-- ---------------------------------------------------------------------------
-- The buttons
-- ---------------------------------------------------------------------------

/-- Both buttons of a dialog of so many columns and rows have an area. -/
def Answerable (style : Style) (columns rows : Nat) : Prop :=
  style.padding.toNat + 2 ≤ style.room columns ∧ 3 ≤ style.room rows

instance (style : Style) (columns rows : Nat) : Decidable (Answerable style columns rows) :=
  inferInstanceAs (Decidable (_ ∧ _))

theorem answerable_iff {size : Size} {style : Style} :
    Answerable style size.width.toNat size.height.toNat ↔
      0 < buttonWidth size style ∧ 0 < buttonHeight size style := by
  rw [Answerable, buttonWidth, buttonHeight]
  omega

section Dialog

variable {places : Places} {area : Rect} {infoText yesText noText : String} {style : Style}

theorem exists_answer_of_mem {binding : ChildId × Answer}
    (h : binding ∈ (places.dialog area infoText yesText noText style).bindings) :
    ∃ answer, binding = (buttonId answer, answer) := by
  rcases List.mem_cons.mp h with rfl | h
  · exact ⟨.yes, rfl⟩
  · exact ⟨.no, List.mem_singleton.mp h⟩

/-- The button for an answer is in its place. -/
theorem exists_button?_dialog (places : Places) (area : Rect) (infoText yesText noText : String)
    (style : Style) (answer : Answer) :
    ∃ text, (places.dialog area infoText yesText noText style).button? (buttonId answer) =
      some (.new (places.button answer) text style) := by
  cases answer with
  | yes => exact ⟨yesText, rfl⟩
  | no => exact ⟨noText, rfl⟩

/-- A stroke is on a button of the dialog exactly when it is on its place in the area. -/
theorem strokeOn_dialog {stroke : List Point} (answer : Answer) :
    (places.dialog area infoText yesText noText style).StrokeOn stroke (buttonId answer) ↔
      ((places.button answer).translate area.topLeft).Carries stroke := by
  obtain ⟨text, hButton⟩ := exists_button?_dialog places area infoText yesText noText style answer
  rw [ModalDialog.StrokeOn, hButton]
  constructor
  · rintro ⟨b, ⟨⟩, -, hCarries⟩
    exact hCarries
  · intro hCarries
    exact ⟨_, rfl, rfl, hCarries⟩

end Dialog

section Laid

variable {places : Places} {area : Rect} {style : Style}

theorem Places.Laid.fitsInto_button (h : places.Laid area.size style) (answer : Answer) :
    (places.button answer).FitsInto area.size := by
  refine h.fitsInto _ ?_
  cases answer <;> simp [button, all]

theorem Places.Laid.button_size (h : places.Laid area.size style) (answer : Answer) :
    (places.button answer).width.toNat = buttonWidth area.size style ∧
      (places.button answer).height.toNat = buttonHeight area.size style := by
  cases answer with
  | yes => exact ⟨h.yes.width, h.yes.height⟩
  | no => exact ⟨h.no.width, h.no.height⟩

/-- The corner of a button that has an area lies on it. -/
theorem Places.Laid.contains_corner (h : places.Laid area.size style) (hArea : area.InPlane)
    (hWidth : 0 < buttonWidth area.size style) (hHeight : 0 < buttonHeight area.size style)
    (answer : Answer) :
    ((places.button answer).translate area.topLeft).contains
      ((places.button answer).translate area.topLeft).topLeft = true := by
  have hFits := h.fitsInto_button answer
  obtain ⟨hButtonWidth, hButtonHeight⟩ := h.button_size answer
  have hx := hFits.toNat_translate_x hArea
  have hy := hFits.toNat_translate_y hArea
  rw [hFits.contains_translate_iff hArea]
  simp only [Rect.topLeft] at hx hy ⊢
  omega

/-- A button without an area carries no stroke. -/
theorem Places.Laid.not_carries (h : places.Laid area.size style) (hArea : area.InPlane)
    (hEmpty : ¬(0 < buttonWidth area.size style ∧ 0 < buttonHeight area.size style))
    (answer : Answer) (stroke : List Point) :
    ¬((places.button answer).translate area.topLeft).Carries stroke := by
  intro hCarries
  obtain ⟨place, hPlace⟩ := List.exists_mem_of_ne_nil stroke hCarries.1
  have hContains := hCarries.2 place hPlace
  obtain ⟨hButtonWidth, hButtonHeight⟩ := h.button_size answer
  rw [(h.fitsInto_button answer).contains_translate_iff hArea] at hContains
  omega

/-- No point lies on both buttons. -/
theorem Places.Laid.not_contains_yes (h : places.Laid area.size style) {p : Point}
    (hNo : (places.no.translate area.topLeft).contains p = true) :
    (places.yes.translate area.topLeft).contains p = false := by
  have hApart := h.apart p
  simp only [all, List.map_cons, List.map_nil, List.pairwise_cons, List.forall_mem_cons] at hApart
  obtain ⟨-, ⟨hBoth, -⟩, -⟩ := hApart
  exact Bool.eq_false_iff.mpr fun hYes => hBoth ⟨hYes, hNo⟩

end Laid

-- ---------------------------------------------------------------------------
-- Runs
-- ---------------------------------------------------------------------------

theorem inPlane_bounds (width height : Word) : (⟨0, 0, width, height⟩ : Rect).InPlane where
  right_lt := by
    rw [UInt64.toNat_zero, Nat.zero_add]
    exact width.toNat_lt
  bottom_lt := by
    rw [UInt64.toNat_zero, Nat.zero_add]
    exact height.toNat_lt

section Run

variable {σ : Type} [Canvas σ] {ready : σ → Prop} {s t : σ} {places : Places} {area : Rect}
  {infoText yesText noText : String} {style : Style}

/-- A dialog in an area of the plane never fails, and the ticks decide how its run ends. -/
theorem exists_answers (hCanvas : Canvas.Unfailing ready) (hReady : ready s)
    (hLaid : places.Laid area.size style) (hArea : area.InPlane) (ticks : List Tick) :
    ∃ d' r t, ((places.dialog area infoText yesText noText style).exec ticks).Ends s (d', r) t ∧
      (places.dialog area infoText yesText noText style).Answers ticks r := by
  have hMiddle : ∀ child ∈ (places.dialog area infoText yesText noText style).window.children,
      child.MiddleInPlane (child.state.globalBounds
        ((places.dialog area infoText yesText noText style).window.state.globalPosition .zero)) := by
    intro child hChild
    obtain ⟨place, hPlace, hState⟩ := exists_place_of_mem hChild
    rw [globalPosition_dialog, hState]
    have hPlane := (hLaid.fitsInto place hPlace).inPlane_translate hArea
    exact child.middleInPlane_of_lt hPlane.right_lt hPlane.bottom_lt
  obtain ⟨d', r, t, hEnds⟩ := ModalDialog.exists_exec_of_middleInPlane hCanvas hMiddle ticks hReady
  exact ⟨d', r, t, hEnds, ModalDialog.answers_of_ends_exec hEnds⟩

/-- A button that has an area is clicked by tapping its corner. -/
theorem exists_tap (hCanvas : Canvas.Unfailing ready) (hReady : ready s)
    (hLaid : places.Laid area.size style) (hArea : area.InPlane)
    (hWidth : 0 < buttonWidth area.size style) (hHeight : 0 < buttonHeight area.size style)
    (answer : Answer) :
    ∃ place d' n t, area.contains place = true ∧
      ((places.dialog area infoText yesText noText style).exec (tap place)).Ends s
        (d', .resolved answer n) t := by
  have hCorner := hLaid.contains_corner hArea hWidth hHeight answer
  generalize ((places.button answer).translate area.topLeft).topLeft = place at hCorner
  have hOn : (places.dialog area infoText yesText noText style).StrokeOn [place]
      (buttonId answer) := (strokeOn_dialog answer).mpr (Rect.carries_singleton.mpr hCorner)
  have hResolves : (places.dialog area infoText yesText noText style).ResolvesAt (tap place) 2
      answer := by
    cases answer with
    | yes =>
      have hBindings : (places.dialog area infoText yesText noText style).bindings =
          [] ++ (buttonId .yes, .yes) :: [(buttonId .no, .no)] := rfl
      exact ModalDialog.resolvesAt_tap hBindings hOn fun _ h => nomatch h
    | no =>
      have hBindings : (places.dialog area infoText yesText noText style).bindings =
          [(buttonId .yes, .yes)] ++ (buttonId .no, .no) :: [] := rfl
      refine ModalDialog.resolvesAt_tap hBindings hOn (List.forall_mem_singleton.mpr ?_)
      show ¬(places.dialog area infoText yesText noText style).StrokeOn [place] (buttonId .yes)
      rw [strokeOn_dialog, Rect.carries_singleton, Bool.not_eq_true]
      exact hLaid.not_contains_yes hCorner
  obtain ⟨d', r, t, hEnds, hAnswers⟩ := exists_answers hCanvas hReady hLaid hArea (tap place)
  refine ⟨place, d', 2, t, (hLaid.fitsInto_button answer).contains_area hArea hCorner, ?_⟩
  cases r with
  | resolved other n =>
    obtain ⟨rfl, rfl⟩ := hResolves.unique hAnswers
    exact hEnds
  | exhausted n =>
    obtain ⟨i, -, -, earlier, id, later, hSplit, hAt, -⟩ := hResolves
    exact absurd hAt (hAnswers.2 i (id, answer) (by simp [hSplit]))

/-- If the buttons have no area, then all ticks are taken. -/
theorem exists_exhausted (hCanvas : Canvas.Unfailing ready) (hReady : ready s)
    (hLaid : places.Laid area.size style) (hArea : area.InPlane)
    (hEmpty : ¬(0 < buttonWidth area.size style ∧ 0 < buttonHeight area.size style))
    (ticks : List Tick) :
    ∃ d' t, ((places.dialog area infoText yesText noText style).exec ticks).Ends s
      (d', .exhausted ticks.length) t := by
  obtain ⟨d', r, t, hEnds, hAnswers⟩ := exists_answers hCanvas hReady hLaid hArea ticks
  refine ⟨d', t, ?_⟩
  cases r with
  | resolved outcome n =>
    obtain ⟨i, -, -, earlier, id, later, hSplit, ⟨-, hStroke⟩, -⟩ := hAnswers
    have hBound : (id, outcome) ∈
        (places.dialog area infoText yesText noText style).bindings := by
      rw [hSplit]
      simp
    obtain ⟨answer, ⟨⟩⟩ := exists_answer_of_mem hBound
    rw [strokeOn_dialog] at hStroke
    exact absurd hStroke (hLaid.not_carries hArea hEmpty outcome _)
  | exhausted n =>
    obtain ⟨rfl, -⟩ := hAnswers
    exact hEnds

/-- Asking a question in the usual area runs the dialog that is made there. -/
theorem ends_exec {d : AcceptDialog} (hLayout : layout (Canvas.bounds s) = .ok area)
    (hNew : new area infoText yesText noText style = .ok d) {ticks : List Tick}
    {r : ModalDialog.ExecResult Answer} :
    (exec infoText yesText noText style ticks).Ends s r t ↔
      ∃ d', (d.dialog.exec ticks).Ends s (d', r) t := by
  simp only [exec, run, Paint.ends_bind, Paint.ends_read, Paint.liftM_eq_lift, Paint.ends_lift,
    Paint.ends_pure]
  constructor
  · rintro ⟨_, _, ⟨rfl, rfl⟩, _, _, ⟨hArea, rfl⟩, _, _, ⟨hDialog, rfl⟩, _, _,
      ⟨⟨d', _⟩, _, hRun, rfl, rfl⟩, rfl, rfl⟩
    rw [hLayout] at hArea
    cases hArea
    rw [hNew] at hDialog
    cases hDialog
    exact ⟨d', hRun⟩
  · rintro ⟨d', hRun⟩
    exact ⟨_, s, ⟨rfl, rfl⟩, area, s, ⟨hLayout, rfl⟩, d, s, ⟨hNew, rfl⟩,
      ({ d with dialog := d' }, r), t, ⟨(d', r), t, hRun, rfl, rfl⟩, rfl, rfl⟩

/-- **When a dialog can be answered.** Let a canvas that does not fail be so wide that three times
its columns are a word, and let the margin of the style be a word. Then the usual area lies in the
middle of the canvas. If both buttons have an area there, then each of the answers is given to some
ticks with all places on the canvas; otherwise every run takes all ticks, whatever the pointer
does. -/
theorem exec_answerable {width height : Word} (hCanvas : Canvas.Unfailing ready) (hReady : ready s)
    (hBounds : Canvas.bounds s = ⟨0, 0, width, height⟩) (hWidth : 3 * width.toNat < 1 <<< 64)
    (hMargin : style.margin < 1 <<< 64) (infoText yesText noText : String) :
    (∃ area, layout (Canvas.bounds s) = .ok area ∧ InMiddleOf area (Canvas.bounds s)) ∧
      (Answerable style (3 * width.toNat / 4) (height.toNat / 2) → ∀ answer, ∃ ticks n t,
        (∀ tick ∈ ticks, ∀ place ∈ tick.pointer, (Canvas.bounds s).contains place = true) ∧
          (exec infoText yesText noText style ticks).Ends s (.resolved answer n) t) ∧
      (¬Answerable style (3 * width.toNat / 4) (height.toNat / 2) → ∀ ticks, ∃ t,
        (exec infoText yesText noText style ticks).Ends s (.exhausted ticks.length) t) := by
  obtain ⟨area, hLayout, hSpans⟩ := exists_layout hWidth height
  have hMiddle := inMiddleOf_of_spans hSpans
  have hPlane := inPlane_bounds width height
  rw [← hBounds] at hLayout hMiddle hPlane
  obtain ⟨places, hLaid, hNew⟩ := exists_new area infoText yesText noText hMargin
  have hArea : area.InPlane := hMiddle.inPlane hPlane
  have hAnswerable : Answerable style (3 * width.toNat / 4) (height.toNat / 2) ↔
      0 < buttonWidth area.size style ∧ 0 < buttonHeight area.size style := by
    rw [← answerable_iff, ← hSpans.width, ← hSpans.height]
    rfl
  refine ⟨⟨area, hLayout, hMiddle⟩, fun h answer => ?_, fun h ticks => ?_⟩
  · obtain ⟨hButtonWidth, hButtonHeight⟩ := hAnswerable.mp h
    obtain ⟨place, d', n, t, hPlace, hEnds⟩ :=
      exists_tap hCanvas hReady hLaid hArea hButtonWidth hButtonHeight answer
    have hInside : (Canvas.bounds s).contains place = true := hMiddle.contains hPlane hPlace
    exact ⟨tap place, n, t, by simp [tap, hInside], (ends_exec hLayout hNew).mpr ⟨d', hEnds⟩⟩
  · rw [hAnswerable] at h
    obtain ⟨d', t, hEnds⟩ := exists_exhausted hCanvas hReady hLaid hArea h ticks
    exact ⟨t, (ends_exec hLayout hNew).mpr ⟨d', hEnds⟩⟩

/-- With the standard style forty columns are enough, and thirty-nine are not. -/
theorem exec_answerable_standard :
    (∀ answer, ∃ ticks n t, (exec "Save?" "Yes" "No" .standard ticks).Ends
      (⟨⟨40, 46⟩, ⟨0, 16⟩, []⟩ : Recorder) (.resolved answer n) t) ∧
    ∀ ticks, ∃ t, (exec "Save?" "Yes" "No" .standard ticks).Ends
      (⟨⟨39, 46⟩, ⟨0, 16⟩, []⟩ : Recorder) (.exhausted ticks.length) t := by
  refine ⟨fun answer => ?_, ?_⟩
  · have hWide := exec_answerable Recorder.unfailing (s := ⟨⟨40, 46⟩, ⟨0, 16⟩, []⟩) rfl rfl
      (by decide) (show Style.standard.margin < 1 <<< 64 by decide) "Save?" "Yes" "No"
    obtain ⟨ticks, n, t, -, hEnds⟩ := hWide.2.1 (by decide) answer
    exact ⟨ticks, n, t, hEnds⟩
  · have hNarrow := exec_answerable Recorder.unfailing (s := ⟨⟨39, 46⟩, ⟨0, 16⟩, []⟩) rfl rfl
      (by decide) (show Style.standard.margin < 1 <<< 64 by decide) "Save?" "Yes" "No"
    exact hNarrow.2.2 (by decide)

end Run

end AcceptDialog

end TouchPanel
