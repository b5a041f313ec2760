import TouchPanel.Dialog.Exec
import TouchPanel.Proofs.Input.Stroke
import TouchPanel.Proofs.Step.Dialog

/-!
# What resolves a running dialog

A running dialog sees nothing but ticks, and it keeps three flags for every button. What resolves
it can nevertheless be said in terms of the ticks alone: a stroke of the pointer that begins,
stays and ends on one visible bound button.

* `StrokeOn`    — a stroke lies on the button of a name.
* `CompletesAt` — the tick with an index lifts the pointer, and the stroke that it ends lies on
  the button of a name.
* `ResolvesAt`  — so it does for some bound button, for the first time, and the outcome is that
  of the earliest of the bindings concerned.

Main results:

* `waiting_restart`, `Waiting.next` — the invariant: as long as no stroke was completed, the
  buttons agree with the stroke under way.
* `exec_resolved_iff` — a run ends as `ResolvesAt` says.
-/

namespace TouchPanel

namespace ModalDialog

variable {O σ : Type}

-- ---------------------------------------------------------------------------
-- Completed strokes
-- ---------------------------------------------------------------------------

/-- The button of a name is visible, and a stroke lies on it. -/
def StrokeOn (d : ModalDialog O) (stroke : List Point) (id : ChildId) : Prop :=
  ∃ b ∈ d.button? id,
    b.state.visible = true ∧ (b.state.globalBounds d.state.position).Carries stroke

/-- The tick with the index `i` lifts the pointer, and the stroke that it ends lies on the button
of a name. -/
def CompletesAt (d : ModalDialog O) (ticks : List Tick) (i : Nat) (id : ChildId) : Prop :=
  (∃ tick ∈ ticks[i]?, tick.pointer = none) ∧ d.StrokeOn (lastStroke (ticks.take i)) id

instance (d : ModalDialog O) (stroke : List Point) (id : ChildId) :
    Decidable (d.StrokeOn stroke id) :=
  inferInstanceAs (Decidable (∃ b ∈ d.button? id, _ ∧ _))

instance (d : ModalDialog O) (ticks : List Tick) (i : Nat) (id : ChildId) :
    Decidable (d.CompletesAt ticks i id) :=
  inferInstanceAs (Decidable ((∃ tick ∈ ticks[i]?, tick.pointer = none) ∧ _))

/-- The first tick that completes a stroke on a bound button is the `n`-th, and the earliest of
the bindings to such a button has the outcome `outcome`. -/
def ResolvesAt (d : ModalDialog O) (ticks : List Tick) (n : Nat) (outcome : O) : Prop :=
  ∃ i, n = i + 1 ∧
    (∀ j < i, ∀ binding ∈ d.bindings, ¬d.CompletesAt ticks j binding.1) ∧
    ∃ earlier id later, d.bindings = earlier ++ (id, outcome) :: later ∧
      d.CompletesAt ticks i id ∧ ∀ binding ∈ earlier, ¬d.CompletesAt ticks i binding.1

-- ---------------------------------------------------------------------------
-- A button of a waiting dialog
-- ---------------------------------------------------------------------------

/-- The button `b'` is the button `b` some ticks into a run: it has the same place, no click is
latched, and if it is visible it agrees with the stroke under way. -/
structure Attends (place : Point) (stroke : List Point) (b b' : Button) : Prop where
  bounds : b'.state.bounds = b.state.bounds
  visible : b'.state.visible = b.state.visible
  unclicked : b'.clicked = false
  follows : b.state.visible = true → b'.Follows (b.state.globalBounds place) stroke

section Attends

variable {place : Point} {ticks : List Tick} {b b' : Button}

theorem Attends.globalBounds_eq {stroke : List Point} (h : Attends place stroke b b') :
    b'.state.globalBounds place = b.state.globalBounds place := by
  rw [WidgetState.globalBounds, h.bounds]
  rfl

theorem Attends.markDirty {stroke : List Point} (h : Attends place stroke b b')
    (repainted : Bool) :
    Attends place stroke b (if repainted then Widget.markDirty b' else b') := by
  cases repainted with
  | true => exact ⟨h.bounds, h.visible, h.unclicked, fun hv => ⟨(h.follows hv).1, (h.follows hv).2⟩⟩
  | false => exact h

/-- The turn of a button latches a click exactly when the pointer is lifted in it and the stroke
that ends lies on the button. -/
theorem Attends.clicked_turned (h : Attends place (lastStroke ticks) b b') (tick : Tick) :
    (turned place tick b').clicked = true ↔
      tick.pointer = none ∧ b.state.visible = true ∧
        (b.state.globalBounds place).Carries (lastStroke ticks) := by
  rw [ModalDialog.clicked_turned, h.unclicked, h.visible, Bool.false_or, Bool.and_eq_true,
    Bool.and_eq_true, Option.isNone_iff_eq_none, and_left_comm]
  refine and_congr_right fun _ => and_congr_right fun hVisible => ?_
  exact (h.follows hVisible).pressed

/-- Unless it latches a click, the turn of a button keeps it in agreement with the stroke under
way. -/
theorem Attends.turned (h : Attends place (lastStroke ticks) b b') (tick : Tick)
    (hUnclicked : (turned place tick b').clicked = false) :
    Attends place (lastStroke (ticks ++ [tick])) b (turned place tick b') := by
  have hState := ModalDialog.state_turned place tick b'
  refine ⟨?_, ?_, hUnclicked, fun hVisible => ?_⟩
  · rw [hState]
    exact h.bounds
  · rw [hState]
    exact h.visible
  · have hFollows := (h.follows hVisible).track tick
    rw [← h.globalBounds_eq] at hFollows ⊢
    rw [ModalDialog.turned, h.visible, if_pos hVisible]
    exact ⟨hFollows.held, hFollows.pressed⟩

end Attends

-- ---------------------------------------------------------------------------
-- The start of a run
-- ---------------------------------------------------------------------------

section Restart

theorem button?_mapButton (d : ModalDialog O) (id other : ChildId) (f : Button → Button) :
    (d.mapButton id f).button? other =
      (d.button? other).map fun b => if id = other then f b else b := by
  simp only [button?, mapButton, Window.child?, Window.modifyChild, List.getElem?_modify]
  have hSlot : id.slot = other.slot ↔ id = other := by
    rw [ChildId.mk.injEq]
  simp only [hSlot]
  cases d.window.children[other.slot]? with
  | none => rfl
  | some e => cases e <;> by_cases hSame : id = other <;> simp [hSame, Element.button?, Element.mapButton]

/-- A button that was reset has nothing left to be reset. -/
theorem reset_reset (b : Button) : b.reset.1.reset.1 = b.reset.1 := by
  unfold Button.reset
  cases b.pressed <;> rfl

theorem button?_resetButtons (d : ModalDialog O) (ids : List ChildId) (id : ChildId) :
    (d.resetButtons ids).1.button? id =
      (d.button? id).map fun b => if id ∈ ids then b.reset.1 else b := by
  induction ids generalizing d with
  | nil => simp [resetButtons]
  | cons first rest ih =>
    simp only [resetButtons, ih, button?_mapButton, Option.map_map, List.mem_cons]
    congr 1
    funext b
    by_cases hFirst : first = id
    · simp [hFirst, reset_reset]
    · simp [hFirst, Ne.symm hFirst]

/-- Resetting buttons changes nothing of a dialog but its children. -/
theorem resetButtons_eq (d : ModalDialog O) (ids : List ChildId) :
    ∃ children, (d.resetButtons ids).1 = { d with window := { d.window with children } } := by
  induction ids generalizing d with
  | nil => exact ⟨d.window.children, rfl⟩
  | cons first rest ih => exact ih (d.mapButton first fun b => b.reset.1)

end Restart

-- ---------------------------------------------------------------------------
-- The invariant of a run
-- ---------------------------------------------------------------------------

/-- The dialog `e` is the dialog `d` after ticks of a run that did not resolve it. -/
structure Waiting (d : ModalDialog O) (ticks : List Tick) (e : ModalDialog O) : Prop where
  outcome : e.outcome = none
  bindings : e.bindings = d.bindings
  position : e.window.state.position = d.window.state.position
  buttons : ∀ binding ∈ d.bindings,
    Option.Rel (Attends d.state.position (lastStroke ticks))
      (d.button? binding.1) (e.button? binding.1)

theorem attends_reset (place : Point) (b : Button) : Attends place [] b b.reset.1 := by
  -- whether a press is dropped shows in the dirty flag only
  unfold Button.reset
  cases hPressed : b.pressed with
  | true => exact ⟨rfl, rfl, rfl, fun _ => Button.follows_nil _ rfl rfl⟩
  | false => exact ⟨rfl, rfl, rfl, fun _ => Button.follows_nil _ rfl rfl⟩

/-- **The start of a run.** A dialog that was started afresh knows of no stroke, whatever input
came before. -/
theorem waiting_restart (d : ModalDialog O) : d.Waiting [] d.restart.1 := by
  have hButtons (id : ChildId) : d.restart.1.button? id =
      (d.button? id).map fun b => if id ∈ d.bindings.map Prod.fst then b.reset.1 else b :=
    button?_resetButtons ({ d with outcome := none } : ModalDialog O) _ id
  obtain ⟨children, hChildren⟩ := resetButtons_eq ({ d with outcome := none } : ModalDialog O)
    (d.bindings.map Prod.fst)
  have hRestart : d.restart.1 = (({ d with outcome := none } : ModalDialog O).resetButtons
      (d.bindings.map Prod.fst)).1.mapState .markDirty := rfl
  rw [hChildren] at hRestart
  refine ⟨by rw [hRestart]; rfl, by rw [hRestart]; rfl, by rw [hRestart]; rfl, ?_⟩
  intro binding hBinding
  have hBound : binding.1 ∈ d.bindings.map Prod.fst := List.mem_map_of_mem hBinding
  rw [hButtons, lastStroke_nil]
  simp only [if_pos hBound]
  cases d.button? binding.1 with
  | none => exact .none
  | some b => exact .some (attends_reset d.state.position b)

section Step

variable {d e : ModalDialog O} {ticks : List Tick}

/-- The dialog after the step of its window, before the clicks are looked through. -/
def stepped (tick : Tick) (e : ModalDialog O) : ModalDialog O :=
  { e with window := StepModel.next .zero tick e.window }

/-- The step of a window leaves a bound button clicked exactly when the tick completes a stroke
on the button. -/
theorem Waiting.clicked_stepped (h : d.Waiting ticks e) (tick : Tick) {binding : ChildId × O}
    (hBinding : binding ∈ d.bindings) :
    ((e.stepped tick).button? binding.1).any Button.clicked = true ↔
      tick.pointer = none ∧ d.StrokeOn (lastStroke ticks) binding.1 := by
  have hRel := h.buttons binding hBinding
  rw [stepped, button?_next, WidgetState.globalPosition, Point.offset_zero, h.position]
  unfold StrokeOn
  generalize d.button? binding.1 = b? at hRel ⊢
  generalize e.button? binding.1 = b?' at hRel ⊢
  cases hRel with
  | none => simp
  | some hAttends =>
    simp only [Option.map_some, Option.any_some, Option.mem_def, Option.some.injEq,
      exists_eq_left']
    exact (hAttends.markDirty e.window.state.dirty).clicked_turned tick

/-- **One tick of a run.** As long as no bound button has a click, the buttons keep agreeing with
the stroke under way. -/
theorem Waiting.stepped (h : d.Waiting ticks e) (tick : Tick)
    (hUnclicked : (e.stepped tick).clickedBinding? = none) :
    d.Waiting (ticks ++ [tick]) (e.stepped tick) := by
  refine ⟨h.outcome, h.bindings, h.position, ?_⟩
  intro binding hBinding
  have hNoClick : ((e.stepped tick).button? binding.1).any Button.clicked = false := by
    have hAll := List.find?_eq_none.mp hUnclicked binding (h.bindings ▸ hBinding)
    exact Bool.not_eq_true _ ▸ hAll
  have hRel := h.buttons binding hBinding
  rw [ModalDialog.stepped, button?_next, WidgetState.globalPosition, Point.offset_zero,
    h.position] at hNoClick ⊢
  generalize d.button? binding.1 = b? at hRel ⊢
  generalize e.button? binding.1 = b?' at hRel hNoClick ⊢
  cases hRel with
  | none => exact .none
  | some hAttends =>
    simp only [Option.map_some, Option.any_some] at hNoClick ⊢
    exact .some ((hAttends.markDirty e.window.state.dirty).turned tick hNoClick)

end Step

-- ---------------------------------------------------------------------------
-- Runs
-- ---------------------------------------------------------------------------

/-- The result of a run is the right one for the ticks that it was given. -/
def Answers (d : ModalDialog O) (ticks : List Tick) : ExecResult O → Prop
  | .resolved outcome n => d.ResolvesAt ticks n outcome
  | .exhausted n =>
      n = ticks.length ∧ ∀ i, ∀ binding ∈ d.bindings, ¬d.CompletesAt ticks i binding.1

theorem completesAt_length {d : ModalDialog O} {earlier later : List Tick} {tick : Tick}
    {id : ChildId} :
    d.CompletesAt (earlier ++ tick :: later) earlier.length id ↔
      tick.pointer = none ∧ d.StrokeOn (lastStroke earlier) id := by
  rw [CompletesAt, List.getElem?_append_right (Nat.le_refl _), Nat.sub_self, List.take_left]
  simp

/-- No tick after the last one completes a stroke. -/
theorem CompletesAt.lt_length {d : ModalDialog O} {ticks : List Tick} {i : Nat} {id : ChildId}
    (h : d.CompletesAt ticks i id) : i < ticks.length := by
  obtain ⟨⟨tick, hTick, -⟩, -⟩ := h
  exact (List.getElem?_eq_some_iff.mp hTick).1

theorem resolvesAt_iff_find? {d : ModalDialog O} {ticks : List Tick} {n : Nat} {outcome : O} :
    d.ResolvesAt ticks n outcome ↔ ∃ i, n = i + 1 ∧
      (∀ j < i, ∀ binding ∈ d.bindings, ¬d.CompletesAt ticks j binding.1) ∧
      ∃ id, d.bindings.find? (fun binding => d.CompletesAt ticks i binding.1) =
        some (id, outcome) := by
  have hFind (i : Nat) (id : ChildId) :
      d.bindings.find? (fun binding => d.CompletesAt ticks i binding.1) = some (id, outcome) ↔
        ∃ earlier later, d.bindings = earlier ++ (id, outcome) :: later ∧
          d.CompletesAt ticks i id ∧ ∀ binding ∈ earlier, ¬d.CompletesAt ticks i binding.1 := by
    rw [List.find?_eq_some_iff_append]
    simp only [decide_eq_true_eq, Bool.not_eq_eq_eq_not, Bool.not_true, decide_eq_false_iff_not]
    constructor
    · intro h
      obtain ⟨hAt, earlier, later, hSplit, hEarlier⟩ := h
      exact ⟨earlier, later, hSplit, hAt, hEarlier⟩
    · intro h
      obtain ⟨earlier, later, hSplit, hAt, hEarlier⟩ := h
      exact ⟨hAt, earlier, later, hSplit, hEarlier⟩
  simp only [ResolvesAt, hFind]
  constructor
  · intro h
    obtain ⟨i, hn, hBefore, earlier, id, later, hSplit⟩ := h
    exact ⟨i, hn, hBefore, id, earlier, later, hSplit⟩
  · intro h
    obtain ⟨i, hn, hBefore, id, earlier, later, hSplit⟩ := h
    exact ⟨i, hn, hBefore, earlier, id, later, hSplit⟩

/-- Ticks resolve a dialog in one way at most. -/
theorem ResolvesAt.unique {d : ModalDialog O} {ticks : List Tick} {n m : Nat} {a b : O}
    (ha : d.ResolvesAt ticks n a) (hb : d.ResolvesAt ticks m b) : m = n ∧ b = a := by
  obtain ⟨i, rfl, hBeforeI, id, hFindI⟩ := resolvesAt_iff_find?.mp ha
  obtain ⟨j, rfl, hBeforeJ, id', hFindJ⟩ := resolvesAt_iff_find?.mp hb
  have hAtI : d.CompletesAt ticks i id := by
    simpa using List.find?_some hFindI
  have hAtJ : d.CompletesAt ticks j id' := by
    simpa using List.find?_some hFindJ
  obtain rfl : j = i := by
    rcases Nat.lt_trichotomy j i with hLt | hEq | hGt
    · exact absurd hAtJ (hBeforeI j hLt _ (List.mem_of_find?_eq_some hFindJ))
    · exact hEq
    · exact absurd hAtI (hBeforeJ i hGt _ (List.mem_of_find?_eq_some hFindI))
  rw [hFindI] at hFindJ
  cases hFindJ
  exact ⟨rfl, rfl⟩

section Run

variable [OutcomeLabel O] [Canvas σ] {d e d' : ModalDialog O} {r : ExecResult O} {s t : σ}

/-- A tick of a run is a step of the window and a look through the clicks. -/
theorem collected_stepped_of_ends {tick : Tick} (hOutcome : e.outcome = none)
    (h : (e.step .zero tick).Ends s d' t) : d' = (e.stepped tick).collected := by
  have hUnresolved : e.outcome.isSome = false := by rw [hOutcome]; rfl
  have hNext := e.sound.next_of_ends h
  simp only [StepModel.next, hUnresolved, Bool.false_eq_true, if_false] at hNext
  exact hNext

/-- **The ticks of a run.** From a dialog that has waited for some ticks, a run over the others
ends as it should for all of them. -/
theorem Waiting.answers {earlier ticks : List Tick} (h : d.Waiting earlier e)
    (hBefore : ∀ i < earlier.length, ∀ binding ∈ d.bindings,
      ¬d.CompletesAt (earlier ++ ticks) i binding.1)
    (hRun : (e.pump earlier.length ticks).Ends s (d', r) t) :
    d.Answers (earlier ++ ticks) r := by
  induction ticks generalizing earlier e s with
  | nil =>
    -- the ticks are used up without a completed stroke
    obtain ⟨hResult, -⟩ := Paint.ends_pure.mp hRun
    cases hResult
    refine ⟨by rw [List.append_nil], fun i binding hBinding hAt => ?_⟩
    have hLt := hAt.lt_length
    rw [List.append_nil] at hLt
    exact hBefore i hLt binding hBinding hAt
  | cons tick rest ih =>
    rw [pump, Paint.ends_bind] at hRun
    obtain ⟨e', u, hStep, hRest⟩ := hRun
    obtain rfl := collected_stepped_of_ends h.outcome hStep
    have hClicked {binding : ChildId × O} (hBinding : binding ∈ d.bindings) :
        ((e.stepped tick).button? binding.1).any Button.clicked = true ↔
          d.CompletesAt (earlier ++ tick :: rest) earlier.length binding.1 :=
      (h.clicked_stepped tick hBinding).trans completesAt_length.symm
    cases hBinding? : (e.stepped tick).clickedBinding? with
    | none =>
      -- the tick completes no stroke, and the run goes on
      have hNone := List.find?_eq_none.mp hBinding?
      have hCollected : (e.stepped tick).collected = e.stepped tick := by
        rw [collected, hBinding?]
      have hWaiting := h.stepped tick hBinding?
      rw [hCollected, hWaiting.outcome] at hRest
      rw [List.append_cons] at hBefore hClicked ⊢
      refine ih hWaiting (fun i hi binding hBinding => ?_) (by simpa using hRest)
      rw [List.length_append, List.length_singleton] at hi
      rcases Nat.lt_succ_iff_lt_or_eq.mp hi with hLt | rfl
      · exact hBefore i hLt binding hBinding
      · rw [← hClicked hBinding]
        exact hNone binding (h.bindings ▸ hBinding)
    | some binding =>
      -- the tick completes a stroke, and the earliest binding concerned resolves the dialog
      obtain ⟨id, outcome⟩ := binding
      have hOutcome : (e.stepped tick).collected.outcome = some outcome := by
        rw [collected, hBinding?]
      rw [hOutcome] at hRest
      obtain ⟨hResult, -⟩ := Paint.ends_pure.mp hRest
      cases hResult
      obtain ⟨hAt, first, second, hSplit, hFirst⟩ := List.find?_eq_some_iff_append.mp hBinding?
      have hSplit : d.bindings = first ++ (id, outcome) :: second := h.bindings ▸ hSplit
      refine ⟨earlier.length, rfl, hBefore, first, id, second, hSplit, ?_, ?_⟩
      · exact (hClicked (by rw [hSplit]; simp)).mp hAt
      · intro binding hBinding hCompletes
        have hUnclicked := hFirst binding hBinding
        rw [(hClicked (by rw [hSplit]; simp [hBinding])).mpr hCompletes] at hUnclicked
        cases hUnclicked

/-- A run ends as it should for its ticks. -/
theorem answers_of_ends_exec {ticks : List Tick} (h : (d.exec ticks).Ends s (d', r) t) :
    d.Answers ticks r := by
  simp only [exec, Paint.ends_bind, Paint.ends_report] at h
  obtain ⟨-, _, rfl, -, _, rfl, hRun⟩ := h
  exact d.waiting_restart.answers (fun i hi => absurd hi (Nat.not_lt_zero i)) hRun

/-- **What resolves a running dialog.** A run that ends without a fault resolves the dialog in the
first tick that completes a stroke on a bound button, with the outcome of the earliest of the
bindings concerned. A run in which no tick completes one takes all ticks. Nothing is asked of the
state in which the dialog is found. -/
theorem exec_resolved_iff {ticks : List Tick} {events : List Event}
    (hRun : (d.exec ticks).run s = .done (d', r) t events) :
    (∀ outcome n, r = .resolved outcome n ↔ d.ResolvesAt ticks n outcome) ∧
      (r = .exhausted ticks.length ↔
        ∀ i, ∀ binding ∈ d.bindings, ¬d.CompletesAt ticks i binding.1) := by
  have hAnswers := answers_of_ends_exec (Paint.Ends.of_run hRun)
  cases r with
  | resolved outcome n =>
    refine ⟨fun other m => ⟨fun h => ?_, fun h => ?_⟩, fun h => (nomatch h), fun hNone => ?_⟩
    · cases h
      exact hAnswers
    · obtain ⟨rfl, rfl⟩ := hAnswers.unique h
      rfl
    · obtain ⟨i, -, -, earlier, id, later, hSplit, hAt, -⟩ := hAnswers
      exact absurd hAt (hNone i (id, outcome) (by simp [hSplit]))
  | exhausted n =>
    obtain ⟨rfl, hNone⟩ := hAnswers
    refine ⟨fun outcome m => ⟨fun h => (nomatch h), fun h => ?_⟩, fun _ => hNone, fun _ => rfl⟩
    obtain ⟨i, -, -, earlier, id, later, hSplit, hAt, -⟩ := h
    exact absurd hAt (hNone i (id, outcome) (by simp [hSplit]))

/-- Two buttons that overlap, one of them bound twice and the other one with a click that nobody
took, in a dialog that was resolved before. -/
def overlapping : ModalDialog UInt32 where
  window :=
    { (Window.new ⟨0, 0, 100, 60⟩ .standard 4 : Window Element) with
      children :=
        [.label (.new ⟨5, 5, 60, 10⟩ "Which?" .standard),
          .button (Button.new ⟨10, 20, 30, 20⟩ "A" .standard).click,
          .button (.new ⟨25, 25, 40, 20⟩ "B" .standard)] }
  bindings := [(⟨2⟩, 7), (⟨1⟩, 8), (⟨2⟩, 9)]
  outcome := some 8

/-- A stroke that leaves the first button, and one that stays where the buttons overlap. -/
def twoStrokes : List Tick :=
  [⟨10, some ⟨12, 22⟩⟩, ⟨10, some ⟨70, 5⟩⟩, ⟨10, none⟩,
    ⟨10, some ⟨30, 30⟩⟩, ⟨10, some ⟨35, 35⟩⟩, ⟨10, none⟩, ⟨10, none⟩]

theorem exec_resolved_iff_overlapping :
    ∃ d t events,
      (overlapping.exec twoStrokes).run (⟨⟨320, 240⟩, ⟨8, 16⟩, []⟩ : Recorder) =
        .done (d, .resolved 7 6) t events ∧
      overlapping.ResolvesAt twoStrokes 6 7 := by
  have hResult : ((overlapping.exec twoStrokes).run
      (⟨⟨320, 240⟩, ⟨8, 16⟩, []⟩ : Recorder)).value?.map Prod.snd = some (.resolved 7 6) := by
    decide +kernel
  obtain ⟨⟨d, r⟩, hValue, rfl⟩ := Option.map_eq_some_iff.mp hResult
  obtain ⟨t, events, hRun⟩ := Paint.exists_run_of_value? hValue
  exact ⟨d, t, events, hRun, ((exec_resolved_iff hRun).1 7 6).mp rfl⟩

end Run

end ModalDialog

end TouchPanel
