import TouchPanel.Widget.Window
import TouchPanel.Proofs.Step.Element

/-!
# Steps of windows

A step of a window is a step of each of its visible children, preceded by a repaint when the
window is dirty. Of the repaint the children notice only that they are dirty afterwards, so the
step is described on the list `Window.marked` of children that it finds:

* the window is clean afterwards, and every visible child is as its own step leaves it;
* the drawing is the ground of the window, if it is dirty, and then those of the children, slot
  after slot.

`Window.sound` needs nothing of the children but that each of them is stepped as described, so it
serves for windows of elements and, in an induction, for trees of windows.
-/

namespace TouchPanel

namespace Window

variable {α : Type}

-- ---------------------------------------------------------------------------
-- The description
-- ---------------------------------------------------------------------------

/-- The ground and the border of a window that lies at a place on the screen. -/
def ground (w : Window α) (place : Point) : List Primitive :=
  .rect (.ofCorner place w.state.size) w.style.mainColor ::
    if 0 < w.style.frameThickness then
      [.frame (.ofCorner place w.state.size) w.style.frameThickness w.style.frameColor]
    else []

theorem ends_redraw {σ : Type} [Canvas σ] {w : Window α} {place : Point} {r : Unit}
    {s t : σ} : (w.redraw place).Ends s r t ↔ (Primitive.drawAll (w.ground place)).Ends s () t := by
  unfold redraw ground
  by_cases hFrame : 0 < w.style.frameThickness
  · simp only [if_pos hFrame, Paint.ends_bind, Paint.ends_report, Primitive.ends_drawAll_cons,
      Primitive.ends_drawAll_nil, Primitive.draw]
    constructor
    · intro hEnds
      obtain ⟨_, _, rfl, _, u, hRect, hFrame⟩ := hEnds
      exact ⟨u, hRect, t, hFrame, rfl⟩
    · intro hParts
      obtain ⟨u, hRect, _, hFrame, rfl⟩ := hParts
      exact ⟨(), s, rfl, (), u, hRect, hFrame⟩
  · simp only [if_neg hFrame, Paint.ends_bind, Paint.ends_report, Paint.ends_pure,
      Primitive.ends_drawAll_cons, Primitive.ends_drawAll_nil, Primitive.draw]
    constructor
    · intro hEnds
      obtain ⟨_, _, rfl, _, u, hRect, _, rfl⟩ := hEnds
      exact ⟨_, hRect, rfl⟩
    · intro hParts
      obtain ⟨u, hRect, rfl⟩ := hParts
      exact ⟨(), s, rfl, (), _, hRect, trivial, rfl⟩

variable [Widget α]

/-- The children as they are when their turn comes: all dirty, if the window is. -/
def marked (w : Window α) : List α :=
  if w.state.dirty then w.children.map Widget.markDirty else w.children

theorem length_marked (w : Window α) : w.marked.length = w.children.length := by
  unfold marked
  split
  · exact List.length_map _
  · rfl

section Children

variable [StepModel α]

/-- A child after a step of its window. -/
def nextChild (place : Point) (tick : Tick) (child : α) : α :=
  if (Widget.state child).visible then StepModel.next place tick child else child

/-- What a child draws in a step of its window. -/
def childDrawing (measure : TextMeasure) (place : Point) (tick : Tick) (child : α) :
    List Primitive :=
  if (Widget.state child).visible then StepModel.drawing measure place tick child else []

/-- The texts that a child draws in a step of its window have sizes and places. -/
def ChildDrawable (measure : TextMeasure) (place : Point) (tick : Tick) (child : α) : Prop :=
  (Widget.state child).visible = true → StepModel.Drawable measure place tick child

instance : StepModel (Window α) where
  next origin tick w :=
    { w with
      state := w.state.clearDirty
      children := w.marked.map (nextChild (w.state.globalPosition origin) tick) }
  drawing measure origin tick w :=
    (if w.state.dirty then w.ground (w.state.globalPosition origin) else []) ++
      w.marked.flatMap (childDrawing measure (w.state.globalPosition origin) tick)
  Drawable measure origin tick w :=
    ∀ child ∈ w.marked, ChildDrawable measure (w.state.globalPosition origin) tick child

end Children

-- ---------------------------------------------------------------------------
-- The children
-- ---------------------------------------------------------------------------

section Children

variable {σ : Type} [Canvas σ] {place : Point} {tick : Tick} {s t : σ}

/-- The turn of one child: a step if it is visible, and nothing otherwise. -/
theorem ends_stepChildren_cons {slot : Nat} {child : α} {rest nodes : List α} :
    (stepChildren place tick slot (child :: rest)).Ends s nodes t ↔
      ∃ child' u rest',
        (if (Widget.state child).visible then (Widget.step place tick child).Ends s child' u
          else child' = child ∧ u = s) ∧
        (stepChildren place tick (slot + 1) rest).Ends u rest' t ∧ nodes = child' :: rest' := by
  rw [stepChildren]
  split
  · simp only [Paint.ends_bind, Paint.ends_report, Paint.ends_pure]
    constructor
    · intro hEnds
      obtain ⟨_, _, rfl, child', u, hChild, rest', _, hRest, rfl, rfl⟩ := hEnds
      exact ⟨child', u, rest', hChild, hRest, rfl⟩
    · intro hParts
      obtain ⟨child', u, rest', hChild, hRest, rfl⟩ := hParts
      exact ⟨(), s, rfl, child', u, hChild, rest', t, hRest, rfl, rfl⟩
  · simp only [Paint.ends_bind, Paint.ends_pure]
    constructor
    · intro hEnds
      obtain ⟨child', u, hChild, rest', _, hRest, rfl, rfl⟩ := hEnds
      exact ⟨child', u, rest', hChild, hRest, rfl⟩
    · intro hParts
      obtain ⟨child', u, rest', hChild, hRest, rfl⟩ := hParts
      exact ⟨child', u, hChild, rest', t, hRest, rfl, rfl⟩

/-- A step of a window steps a child once, if it is visible, and otherwise leaves it as it was when
its turn came. -/
theorem exists_turn_of_ends_stepChildren {slot : Nat} {nodes nodes' : List α}
    (h : (stepChildren place tick slot nodes).Ends s nodes' t) {i : Nat} {child : α}
    (hChild : nodes[i]? = some child) :
    ∃ child', nodes'[i]? = some child' ∧
      if (Widget.state child).visible then
        ∃ u v : σ, (Widget.step place tick child).Ends u child' v
      else child' = child := by
  induction nodes generalizing slot s nodes' i with
  | nil => cases hChild
  | cons first rest ih =>
    obtain ⟨first', u, rest', hFirst, hRest, rfl⟩ := ends_stepChildren_cons.mp h
    cases i with
    | zero =>
      obtain rfl : first = child := Option.some.inj hChild
      refine ⟨first', rfl, ?_⟩
      split at hFirst
      · rename_i hVisible
        rw [if_pos hVisible]
        exact ⟨s, u, hFirst⟩
      · rename_i hHidden
        rw [if_neg hHidden]
        exact hFirst.1
    | succ i => exact ih hRest hChild

theorem length_of_ends_stepChildren {slot : Nat} {nodes nodes' : List α}
    (h : (stepChildren place tick slot nodes).Ends s nodes' t) :
    nodes'.length = nodes.length := by
  induction nodes generalizing slot s nodes' with
  | nil =>
    rw [stepChildren, Paint.ends_pure] at h
    rw [h.1]
  | cons child rest ih =>
    obtain ⟨child', u, rest', -, hRest, rfl⟩ := ends_stepChildren_cons.mp h
    rw [List.length_cons, List.length_cons, ih hRest]

variable [StepModel α]

theorem next_of_ends_stepChildren {slot : Nat} {nodes nodes' : List α}
    (hSound : ∀ child ∈ nodes, StepModel.Sound child)
    (h : (stepChildren place tick slot nodes).Ends s nodes' t) :
    nodes' = nodes.map (nextChild place tick) := by
  induction nodes generalizing slot s nodes' with
  | nil =>
    rw [stepChildren, Paint.ends_pure] at h
    exact h.1
  | cons child rest ih =>
    obtain ⟨child', u, rest', hChild, hRest, rfl⟩ := ends_stepChildren_cons.mp h
    rw [List.map_cons, ← ih (fun c hc => hSound c (List.mem_cons_of_mem _ hc)) hRest]
    congr 1
    unfold nextChild
    split at hChild
    · rename_i hVisible
      rw [if_pos hVisible]
      exact (hSound child List.mem_cons_self).next_of_ends hChild
    · rename_i hHidden
      rw [if_neg hHidden]
      exact hChild.1

/-- The turn of one child on a steady canvas, as described. -/
theorem ends_turn [SteadyCanvas σ] {child child' : α} (hSound : StepModel.Sound child) :
    (if (Widget.state child).visible then (Widget.step place tick child).Ends s child' t
        else child' = child ∧ t = s) ↔
      child' = nextChild place tick child ∧
        ChildDrawable (Canvas.textSize s) place tick child ∧
        (Primitive.drawAll (childDrawing (Canvas.textSize s) place tick child)).Ends s () t := by
  unfold nextChild ChildDrawable childDrawing
  split
  · rename_i hVisible
    rw [hSound.ends_step]
    simp [hVisible]
  · rename_i hHidden
    simp [hHidden, Primitive.ends_drawAll_nil]

theorem ends_stepChildren [SteadyCanvas σ] {slot : Nat} {nodes nodes' : List α}
    (hSound : ∀ child ∈ nodes, StepModel.Sound child) :
    (stepChildren place tick slot nodes).Ends s nodes' t ↔
      nodes' = nodes.map (nextChild place tick) ∧
        (∀ child ∈ nodes, ChildDrawable (Canvas.textSize s) place tick child) ∧
        (Primitive.drawAll
          (nodes.flatMap (childDrawing (Canvas.textSize s) place tick))).Ends s () t := by
  induction nodes generalizing slot s nodes' with
  | nil =>
    rw [stepChildren, Paint.ends_pure]
    simp [Primitive.ends_drawAll_nil]
  | cons child rest ih =>
    have hRest : ∀ c ∈ rest, StepModel.Sound c := fun c hc =>
      hSound c (List.mem_cons_of_mem _ hc)
    have hTurn {child' : α} {t : σ} :
        (if (Widget.state child).visible then (Widget.step place tick child).Ends s child' t
            else child' = child ∧ t = s) ↔
          child' = nextChild place tick child ∧
            ChildDrawable (Canvas.textSize s) place tick child ∧
            (Primitive.drawAll (childDrawing (Canvas.textSize s) place tick child)).Ends s () t :=
      ends_turn (hSound child List.mem_cons_self)
    simp only [ends_stepChildren_cons, hTurn, ih hRest, List.map_cons, List.flatMap_cons,
      List.forall_mem_cons, Primitive.ends_drawAll_append]
    -- the child draws first, and the texts of the rest are measured after that
    constructor
    · intro hEnds
      obtain ⟨_, u, _, ⟨rfl, hDrawable, hChild⟩, ⟨rfl, hDrawables, hRest⟩, rfl⟩ := hEnds
      rw [Primitive.textSize_drawAll hChild] at hDrawables hRest
      exact ⟨rfl, ⟨hDrawable, hDrawables⟩, u, hChild, hRest⟩
    · intro hParts
      obtain ⟨rfl, ⟨hDrawable, hDrawables⟩, u, hChild, hRest⟩ := hParts
      refine ⟨_, u, _, ⟨rfl, hDrawable, hChild⟩, ⟨rfl, ?_, ?_⟩, rfl⟩
      · rw [Primitive.textSize_drawAll hChild]
        exact hDrawables
      · rw [Primitive.textSize_drawAll hChild]
        exact hRest

end Children

-- ---------------------------------------------------------------------------
-- The window
-- ---------------------------------------------------------------------------

section Window

variable {σ : Type} [Canvas σ] {tick : Tick} {s t : σ}

/-- The step of a window: the ground, if the window is dirty, and then the children. -/
theorem ends_step_window {origin : Point} {w w' : Window α} :
    (w.step origin tick).Ends s w' t ↔
      ∃ u children,
        (if w.state.dirty then
            (Primitive.drawAll (w.ground (w.state.globalPosition origin))).Ends s () u
          else u = s) ∧
        (stepChildren (w.state.globalPosition origin) tick 0 w.marked).Ends u children t ∧
        w' = { w with state := w.state.clearDirty, children } := by
  unfold step marked
  cases hDirty : w.state.dirty with
  | true =>
    simp only [if_true, Paint.ends_bind, Paint.ends_pure, ends_redraw]
    constructor
    · intro hEnds
      obtain ⟨_, u, hGround, children, _, hChildren, rfl, rfl⟩ := hEnds
      exact ⟨u, children, hGround, hChildren, rfl⟩
    · intro hParts
      obtain ⟨u, children, hGround, hChildren, rfl⟩ := hParts
      exact ⟨(), u, hGround, children, t, hChildren, rfl, rfl⟩
  | false =>
    have hState : w.state.clearDirty = w.state := by
      rw [WidgetState.clearDirty, ← hDirty]
    simp only [Bool.false_eq_true, if_false, Paint.ends_bind, Paint.ends_pure, hState]
    constructor
    · intro hEnds
      obtain ⟨children, _, hChildren, rfl, rfl⟩ := hEnds
      exact ⟨s, children, rfl, hChildren, rfl⟩
    · intro hParts
      obtain ⟨_, children, rfl, hChildren, rfl⟩ := hParts
      exact ⟨children, t, hChildren, rfl, rfl⟩

theorem exists_turn_of_ends_step {origin : Point} {w w' : Window α}
    (h : (w.step origin tick).Ends s w' t) {slot : Nat} {child : α}
    (hChild : w.marked[slot]? = some child) :
    ∃ child', w'.children[slot]? = some child' ∧
      if (Widget.state child).visible then
        ∃ u v : σ, (Widget.step (w.state.globalPosition origin) tick child).Ends u child' v
      else child' = child := by
  obtain ⟨u, children, -, hChildren, rfl⟩ := ends_step_window.mp h
  exact exists_turn_of_ends_stepChildren hChildren hChild

variable [StepModel α]

/-- A window is stepped as described if its children are. -/
theorem sound {w : Window α} (hSound : ∀ child ∈ w.marked, StepModel.Sound child) :
    StepModel.Sound w where
  next_of_ends h := by
    obtain ⟨u, children, -, hChildren, rfl⟩ := ends_step_window.mp h
    rw [next_of_ends_stepChildren hSound hChildren]
    rfl
  ends_step {σ _ _ origin tick s t w'} := by
    refine ends_step_window.trans ?_
    simp only [ends_stepChildren hSound, StepModel.next, StepModel.Drawable, StepModel.drawing,
      Primitive.ends_drawAll_append]
    have hGround {u : σ} :
        (if w.state.dirty then
            (Primitive.drawAll (w.ground (w.state.globalPosition origin))).Ends s () u
          else u = s) ↔
        (Primitive.drawAll (if w.state.dirty then w.ground (w.state.globalPosition origin)
          else [])).Ends s () u := by
      cases w.state.dirty <;> simp [Primitive.ends_drawAll_nil]
    simp only [hGround]
    constructor
    · intro hStep
      obtain ⟨u, _, hOwn, ⟨rfl, hDrawable, hChildren⟩, rfl⟩ := hStep
      rw [Primitive.textSize_drawAll hOwn] at hDrawable hChildren
      exact ⟨rfl, hDrawable, u, hOwn, hChildren⟩
    · intro hParts
      obtain ⟨rfl, hDrawable, u, hOwn, hChildren⟩ := hParts
      refine ⟨u, _, hOwn, ⟨rfl, ?_, ?_⟩, rfl⟩
      · rw [Primitive.textSize_drawAll hOwn]
        exact hDrawable
      · rw [Primitive.textSize_drawAll hOwn]
        exact hChildren

end Window

/-- A window of labels and buttons is stepped as described. -/
theorem sound_of_elements (w : Window Element) : StepModel.Sound w :=
  sound fun e _ => e.sound

end Window

end TouchPanel
