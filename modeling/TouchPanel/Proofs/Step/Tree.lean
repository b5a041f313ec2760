import TouchPanel.Tree
import TouchPanel.Proofs.Step.Dialog

/-!
# Steps of widget trees

A tree is stepped as its root is, and the description of the step follows the tree in the same
way. As with `Node.stepUnder`, the functions that recurse take along whether the owner was just
repainted, and the root of what they describe is dirty if so.

* `Node.induct_marked` — induction on trees that follows a step.
* `Node.next_window`, `Node.drawing_window` — an inner node is described as any window is.
* `Node.sound` — trees are stepped as described.
-/

namespace TouchPanel

namespace Node

variable {O σ : Type}

-- ---------------------------------------------------------------------------
-- The description
-- ---------------------------------------------------------------------------

mutual

/-- A tree after a step. -/
def nextUnder (repainted : Bool) (origin : Point) (tick : Tick) : Node O → Node O
  | window w =>
      window { w with
        state := w.state.clearDirty
        children := nextAllUnder (w.state.dirty || repainted) (w.state.globalPosition origin) tick
          w.children }
  | element e =>
      element (StepModel.next origin tick (if repainted then e.mapState .markDirty else e))
  | dialog d =>
      dialog (StepModel.next origin tick (if repainted then d.mapState .markDirty else d))
  | probe p => probe (if repainted then { p with state := p.state.markDirty } else p)

/-- The children of a window after its step. -/
def nextAllUnder (repainted : Bool) (origin : Point) (tick : Tick) :
    List (Node O) → List (Node O)
  | [] => []
  | child :: rest =>
      (if child.state.visible then nextUnder repainted origin tick child
        else child.markedIf repainted) :: nextAllUnder repainted origin tick rest

end

mutual

/-- What a step of a tree draws. -/
def drawingUnder (measure : TextMeasure) (repainted : Bool) (origin : Point) (tick : Tick) :
    Node O → List Primitive
  | window w =>
      (if w.state.dirty || repainted then w.ground (w.state.globalPosition origin) else []) ++
        drawingAllUnder measure (w.state.dirty || repainted) (w.state.globalPosition origin) tick
          w.children
  | element e =>
      StepModel.drawing measure origin tick (if repainted then e.mapState .markDirty else e)
  | dialog d =>
      StepModel.drawing measure origin tick (if repainted then d.mapState .markDirty else d)
  | probe _ => []

/-- What the children of a window draw in its step. -/
def drawingAllUnder (measure : TextMeasure) (repainted : Bool) (origin : Point) (tick : Tick) :
    List (Node O) → List Primitive
  | [] => []
  | child :: rest =>
      (if child.state.visible then drawingUnder measure repainted origin tick child else []) ++
        drawingAllUnder measure repainted origin tick rest

end

mutual

/-- The texts that a step of a tree draws have sizes and places. -/
def DrawableUnder (measure : TextMeasure) (repainted : Bool) (origin : Point) (tick : Tick) :
    Node O → Prop
  | window w =>
      DrawableAllUnder measure (w.state.dirty || repainted) (w.state.globalPosition origin) tick
        w.children
  | element e =>
      StepModel.Drawable measure origin tick (if repainted then e.mapState .markDirty else e)
  | dialog d =>
      StepModel.Drawable measure origin tick (if repainted then d.mapState .markDirty else d)
  | probe _ => True

/-- The texts that the children of a window draw in its step have sizes and places. -/
def DrawableAllUnder (measure : TextMeasure) (repainted : Bool) (origin : Point) (tick : Tick) :
    List (Node O) → Prop
  | [] => True
  | child :: rest =>
      (child.state.visible = true → DrawableUnder measure repainted origin tick child) ∧
        DrawableAllUnder measure repainted origin tick rest

end

instance : StepModel (Node O) where
  next := nextUnder false
  drawing measure := drawingUnder measure false
  Drawable measure := DrawableUnder measure false

-- ---------------------------------------------------------------------------
-- Marked trees
-- ---------------------------------------------------------------------------

section Marked

variable (repainted : Bool) (origin : Point) (tick : Tick)

/-- The tree under a repainted owner is described as the dirty tree is. -/
theorem nextUnder_eq (n : Node O) :
    n.nextUnder repainted origin tick = StepModel.next origin tick (n.markedIf repainted) := by
  cases repainted with
  | false => rfl
  | true =>
    cases n <;> simp [StepModel.next, nextUnder, markedIf, mapState, WidgetState.markDirty,
      WidgetState.clearDirty, WidgetState.globalPosition]

theorem drawingUnder_eq (measure : TextMeasure) (n : Node O) :
    n.drawingUnder measure repainted origin tick =
      StepModel.drawing measure origin tick (n.markedIf repainted) := by
  cases repainted with
  | false => rfl
  | true =>
    cases n <;> simp [StepModel.drawing, drawingUnder, markedIf, mapState, WidgetState.markDirty,
      WidgetState.globalPosition, Window.ground]

theorem drawableUnder_iff (measure : TextMeasure) (n : Node O) :
    n.DrawableUnder measure repainted origin tick ↔
      StepModel.Drawable measure origin tick (n.markedIf repainted) := by
  cases repainted with
  | false => rfl
  | true =>
    cases n <;> simp [StepModel.Drawable, DrawableUnder, markedIf, mapState,
      WidgetState.markDirty, WidgetState.globalPosition]

end Marked

-- ---------------------------------------------------------------------------
-- Windows in a tree
-- ---------------------------------------------------------------------------

section Windows

variable [OutcomeLabel O]

theorem marked_window (w : Window (Node O)) :
    w.marked = w.children.map (markedIf w.state.dirty) := by
  unfold Window.marked
  cases w.state.dirty with
  | true => rfl
  | false => exact (List.map_id _).symm

/-- Induction on trees that follows a step: what holds of the children of a window, as they are when
their turn comes, may be used for the window. -/
@[elab_as_elim]
theorem induct_marked {motive : Node O → Prop} (element : ∀ e, motive (element e))
    (window : ∀ w : Window (Node O), (∀ child ∈ w.marked, motive child) → motive (window w))
    (dialog : ∀ d, motive (dialog d)) (probe : ∀ p, motive (probe p)) (n : Node O) : motive n := by
  -- a child may be made dirty by its owner, so the induction is on both forms of it
  suffices hBoth : ∀ repainted, motive (n.markedIf repainted) from hBoth false
  induction n using induct with
  | element e =>
    rintro (_ | _)
    · exact element e
    · exact element (e.mapState .markDirty)
  | window w ih =>
    have hMarked {w' : Window (Node O)} (hChildren : w'.children = w.children) :
        ∀ child ∈ w'.marked, motive child := by
      intro child hChild
      rw [marked_window, hChildren] at hChild
      obtain ⟨c, hc, rfl⟩ := List.mem_map.mp hChild
      exact ih c hc _
    rintro (_ | _)
    · exact window w (hMarked rfl)
    · exact window _ (hMarked rfl)
  | dialog d =>
    rintro (_ | _)
    · exact dialog d
    · exact dialog (d.mapState .markDirty)
  | probe p =>
    rintro (_ | _)
    · exact probe p
    · exact probe { p with state := p.state.markDirty }

section

variable (origin : Point) (tick : Tick)

theorem nextAllUnder_eq (repainted : Bool) (nodes : List (Node O)) :
    nextAllUnder repainted origin tick nodes =
      (nodes.map (markedIf repainted)).map (Window.nextChild origin tick) := by
  induction nodes with
  | nil => rfl
  | cons child rest ih =>
    simp only [nextAllUnder, ih, nextUnder_eq, List.map_cons, Window.nextChild, Widget.state,
      visible_markedIf]

theorem drawingAllUnder_eq (measure : TextMeasure) (repainted : Bool) (nodes : List (Node O)) :
    drawingAllUnder measure repainted origin tick nodes =
      (nodes.map (markedIf repainted)).flatMap (Window.childDrawing measure origin tick) := by
  induction nodes with
  | nil => rfl
  | cons child rest ih =>
    simp only [drawingAllUnder, ih, drawingUnder_eq, List.map_cons, List.flatMap_cons,
      Window.childDrawing, Widget.state, visible_markedIf]

theorem drawableAllUnder_iff (measure : TextMeasure) (repainted : Bool)
    (nodes : List (Node O)) :
    DrawableAllUnder measure repainted origin tick nodes ↔
      ∀ child ∈ nodes.map (markedIf repainted),
        Window.ChildDrawable measure origin tick child := by
  induction nodes with
  | nil => simp [DrawableAllUnder]
  | cons child rest ih =>
    simp only [DrawableAllUnder, ih, drawableUnder_iff, List.map_cons, List.forall_mem_cons,
      Window.ChildDrawable, Widget.state, visible_markedIf]

/-- An inner node is described as any window is. -/
theorem next_window (w : Window (Node O)) :
    StepModel.next origin tick (window w) = window (StepModel.next origin tick w) := by
  simp only [StepModel.next, nextUnder, Bool.or_false, nextAllUnder_eq, marked_window]

theorem drawing_window (measure : TextMeasure) (w : Window (Node O)) :
    StepModel.drawing measure origin tick (window w) = StepModel.drawing measure origin tick w := by
  simp only [StepModel.drawing, drawingUnder, Bool.or_false, drawingAllUnder_eq, marked_window]

theorem drawable_window (measure : TextMeasure) (w : Window (Node O)) :
    StepModel.Drawable measure origin tick (window w) ↔
      StepModel.Drawable measure origin tick w := by
  simp only [StepModel.Drawable, DrawableUnder, Bool.or_false, drawableAllUnder_iff,
    marked_window]

end

-- ---------------------------------------------------------------------------
-- Soundness
-- ---------------------------------------------------------------------------

section Maps

variable [Canvas σ] {origin : Point} {tick : Tick} {s t : σ} {n' : Node O}

theorem ends_step_element {e : Element} :
    ((element e : Node O).step origin tick).Ends s n' t ↔
      ∃ e', (e.step origin tick).Ends s e' t ∧ n' = element e' :=
  Paint.ends_map

theorem ends_step_dialog {d : ModalDialog O} :
    ((dialog d).step origin tick).Ends s n' t ↔
      ∃ d', (d.step origin tick).Ends s d' t ∧ n' = dialog d' :=
  Paint.ends_map

theorem ends_step_window {w : Window (Node O)} :
    ((window w).step origin tick).Ends s n' t ↔
      ∃ w', (w.step origin tick).Ends s w' t ∧ n' = window w' := by
  rw [step_window, Paint.ends_map]

theorem ends_step_probe {p : Probe} :
    ((probe p : Node O).step origin tick).Ends s n' t ↔ n' = probe p ∧ t = s := by
  refine Paint.ends_map.trans ?_
  simp only [Probe.step, Bool.false_eq_true, if_false, Paint.ends_bind, Paint.ends_report,
    Paint.ends_pure]
  constructor
  · intro hEnds
    obtain ⟨_, ⟨_, _, rfl, rfl, rfl⟩, rfl⟩ := hEnds
    exact ⟨rfl, rfl⟩
  · intro hParts
    obtain ⟨rfl, rfl⟩ := hParts
    exact ⟨p, ⟨(), t, rfl, rfl, rfl⟩, rfl⟩

end Maps

/-- A description that is right for the root is right for the tree. -/
theorem sound_of_root {α : Type} [Widget α] [StepModel α] {n : Node O} {w : α}
    {wrap : α → Node O} (hSound : StepModel.Sound w)
    (hStep : ∀ {σ : Type} [Canvas σ] {origin : Point} {tick : Tick} {s t : σ} {n' : Node O},
      (n.step origin tick).Ends s n' t ↔
        ∃ w', (Widget.step origin tick w).Ends s w' t ∧ n' = wrap w')
    (hNext : ∀ origin tick, StepModel.next origin tick n = wrap (StepModel.next origin tick w))
    (hDrawing : ∀ measure origin tick,
      StepModel.drawing measure origin tick n = StepModel.drawing measure origin tick w)
    (hDrawable : ∀ measure origin tick,
      StepModel.Drawable measure origin tick n ↔ StepModel.Drawable measure origin tick w) :
    StepModel.Sound n where
  next_of_ends h := by
    obtain ⟨w', hEnds, rfl⟩ := hStep.mp h
    rw [hNext, hSound.next_of_ends hEnds]
  ends_step := by
    intro σ _ _ origin tick s t n'
    refine Iff.trans hStep ?_
    rw [hNext, hDrawing, hDrawable]
    refine ⟨fun h => ?_, fun h => ?_⟩
    · obtain ⟨w', hEnds, rfl⟩ := h
      obtain ⟨rfl, hDrawn⟩ := hSound.ends_step.mp hEnds
      exact ⟨rfl, hDrawn⟩
    · obtain ⟨rfl, hDrawn⟩ := h
      exact ⟨_, hSound.ends_step.mpr ⟨rfl, hDrawn⟩, rfl⟩

theorem sound_element (e : Element) : StepModel.Sound (element e : Node O) :=
  sound_of_root e.sound ends_step_element (fun _ _ => rfl) (fun _ _ _ => rfl)
    (fun _ _ _ => Iff.rfl)

theorem sound_dialog (d : ModalDialog O) : StepModel.Sound (dialog d) :=
  sound_of_root d.sound ends_step_dialog (fun _ _ => rfl) (fun _ _ _ => rfl)
    (fun _ _ _ => Iff.rfl)

theorem sound_window {w : Window (Node O)} (hSound : ∀ child ∈ w.marked, StepModel.Sound child) :
    StepModel.Sound (window w) :=
  sound_of_root (Window.sound hSound) ends_step_window (fun _ _ => next_window _ _ w)
    (fun _ _ _ => drawing_window _ _ _ w) (fun _ _ _ => drawable_window _ _ _ w)

theorem sound_probe (p : Probe) : StepModel.Sound (probe p : Node O) where
  next_of_ends h := (ends_step_probe.mp h).1
  ends_step := by
    intro σ _ _ origin tick s t n'
    refine Iff.trans ends_step_probe ?_
    simp only [StepModel.next, StepModel.drawing, StepModel.Drawable, nextUnder, drawingUnder,
      DrawableUnder, Primitive.ends_drawAll_nil, true_and]
    rfl

/-- **Trees are stepped as described.** -/
theorem sound (n : Node O) : StepModel.Sound n := by
  induction n using induct_marked with
  | element e => exact sound_element e
  | window w ih => exact sound_window ih
  | dialog d => exact sound_dialog d
  | probe p => exact sound_probe p

end Windows

end Node

end TouchPanel
