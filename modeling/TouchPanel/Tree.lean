import TouchPanel.Dialog.Modal

/-!
# Widget trees

A tree of windows within windows, with labels, buttons, dialogs and probes at its leaves. A node
is reached from the root by a path of slots.

* `Node.step` steps a whole tree; `Node.step_window` says that an inner node is stepped just as
  `Window.step` steps it.
* `Node.at?` and `Node.replaceAt` reach inner nodes.
* `Node.preorder` lists the nodes, owners before what they own.
-/

namespace TouchPanel

/-! ## Probes -/

/-- A widget that draws nothing and reports the input that reaches it. -/
structure Probe where
  state : WidgetState
  id : Int
  deriving DecidableEq, Repr

/-- A probe reports its input and remains as it is, also when it is dirty. -/
def Probe.step {σ : Type} (origin : Point) (tick : Tick) (p : Probe) : Paint σ Probe := do
  Paint.report
    [.probeStepped { id := p.id, origin, elapsed := tick.elapsed, pointer := tick.pointer }]
  return p

/-! ## Nodes -/

/-- A widget tree whose dialogs are resolved to outcomes of type `O`. -/
inductive Node (O : Type) where
  | element (element : Element)
  | window (window : Window (Node O))
  | dialog (dialog : ModalDialog O)
  | probe (probe : Probe)

namespace Node

variable {O σ : Type}

/-- Induction on trees: what holds of all children of a window may be used for the window. -/
@[elab_as_elim]
theorem induct {motive : Node O → Prop} (element : ∀ e, motive (element e))
    (window : ∀ w : Window (Node O), (∀ child ∈ w.children, motive child) → motive (window w))
    (dialog : ∀ d, motive (dialog d)) (probe : ∀ p, motive (probe p)) (n : Node O) : motive n :=
  @Node.rec O motive (fun w => ∀ child ∈ w.children, motive child)
    (fun nodes => ∀ child ∈ nodes, motive child)
    element (fun w hChildren => window w hChildren) dialog probe
    (fun _ _ _ _ hChildren => hChildren)
    (fun _ hMem => absurd hMem List.not_mem_nil)
    (fun _ _ hFirst hRest => List.forall_mem_cons.mpr ⟨hFirst, hRest⟩) n

/-- What all widgets have in common. -/
def state : Node O → WidgetState
  | element e => e.state
  | window w => w.state
  | dialog d => d.state
  | probe p => p.state

/-- Changes the common state of the root and nothing else. -/
def mapState (f : WidgetState → WidgetState) : Node O → Node O
  | element e => element (e.mapState f)
  | window w => window { w with state := f w.state }
  | dialog d => dialog (d.mapState f)
  | probe p => probe { p with state := f p.state }

/-- Makes the root dirty if its owner was repainted. -/
def markedIf (repainted : Bool) (n : Node O) : Node O :=
  if repainted then n.mapState .markDirty else n

/-! ## Steps -/

section Steps

variable [OutcomeLabel O] [Canvas σ]

mutual

/-- Steps a tree whose owner lies at `origin`. When the owner was just repainted, the root is
made dirty first. -/
def stepUnder (repainted : Bool) (origin : Point) (tick : Tick) : Node O → Paint σ (Node O)
  | window w => do
      let origin := w.state.globalPosition origin
      if w.state.dirty || repainted then
        w.redraw origin
        let children ← stepAllUnder true origin tick 0 w.children
        return window { w with state := w.state.clearDirty, children }
      else
        let children ← stepAllUnder false origin tick 0 w.children
        return window { w with children }
  | element e => element <$> (if repainted then e.mapState .markDirty else e).step origin tick
  | dialog d => dialog <$> (if repainted then d.mapState .markDirty else d).step origin tick
  | probe p =>
      probe <$> Probe.step origin tick
        (if repainted then { p with state := p.state.markDirty } else p)

/-- Steps the visible ones among children that have the slots from `slot` on. -/
def stepAllUnder (repainted : Bool) (origin : Point) (tick : Tick) (slot : Nat) :
    List (Node O) → Paint σ (List (Node O))
  | [] => return []
  | child :: rest => do
      let child ←
        if child.state.visible then do
          Paint.report [.childStepped slot]
          stepUnder repainted origin tick child
        else
          pure (child.markedIf repainted)
      let rest ← stepAllUnder repainted origin tick (slot + 1) rest
      return child :: rest

end

/-- One step of a tree, given the place of its owner. -/
def step (origin : Point) (tick : Tick) (n : Node O) : Paint σ (Node O) :=
  n.stepUnder false origin tick

omit [Canvas σ] in
instance : Widget (Node O) where
  state := state
  mapState := mapState
  step := step

theorem stepUnder_true (origin : Point) (tick : Tick) (n : Node O) :
    n.stepUnder (σ := σ) true origin tick = (n.mapState .markDirty).step origin tick := by
  cases n <;> simp [step, stepUnder, mapState, WidgetState.markDirty, WidgetState.clearDirty,
    WidgetState.globalPosition, Window.redraw]

/-- Stepping a tree whose owner was repainted is stepping the dirty tree. -/
theorem stepUnder_eq (repainted : Bool) (origin : Point) (tick : Tick) (n : Node O) :
    n.stepUnder (σ := σ) repainted origin tick = (n.markedIf repainted).step origin tick := by
  cases repainted with
  | false => rfl
  | true => exact stepUnder_true origin tick n

omit [OutcomeLabel O] [Canvas σ] in
theorem visible_markedIf (repainted : Bool) (n : Node O) :
    (n.markedIf repainted).state.visible = n.state.visible := by
  cases repainted with
  | false => rfl
  | true =>
    cases n with
    | element e => cases e <;> rfl
    | window | dialog | probe => rfl

theorem stepAllUnder_eq (repainted : Bool) (origin : Point) (tick : Tick) (slot : Nat)
    (nodes : List (Node O)) :
    stepAllUnder (σ := σ) repainted origin tick slot nodes =
      Window.stepChildren origin tick slot (nodes.map (markedIf repainted)) := by
  induction nodes generalizing slot with
  | nil => simp [stepAllUnder, Window.stepChildren]
  | cons child rest ih =>
    simp only [stepAllUnder, List.map_cons, Window.stepChildren, ih, Widget.state,
      visible_markedIf, stepUnder_eq, Widget.step]

/-- An inner node is stepped as any window is. -/
theorem step_window (origin : Point) (tick : Tick) (w : Window (Node O)) :
    (window w).step (σ := σ) origin tick = window <$> w.step origin tick := by
  have unmarked : markedIf (O := O) false = id := rfl
  have marked : markedIf (O := O) true = Widget.markDirty := rfl
  cases h : w.state.dirty <;>
    simp [step, stepUnder, Window.step, stepAllUnder_eq, h, unmarked, marked]

end Steps

/-! ## Paths -/

/-- The children of a node in the order of their slots. -/
def children : Node O → List (Node O)
  | window w => w.children
  | dialog d => d.window.children.map element
  | element _ => []
  | probe _ => []

/-- Puts a node in place of a child. A dialog owns elements only. -/
def setChild (n : Node O) (slot : Nat) (child : Node O) : Node O :=
  match n, child with
  | window w, _ => window { w with children := w.children.set slot child }
  | dialog d, element e =>
      dialog { d with window := { d.window with children := d.window.children.set slot e } }
  | _, _ => n

/-- The node at the end of a path. -/
def at? (n : Node O) : List Nat → Option (Node O)
  | [] => some n
  | slot :: path => n.children[slot]?.bind fun child => child.at? path

/-- The tree with another node at the end of a path. -/
def replaceAt (n : Node O) (path : List Nat) (new : Node O) : Node O :=
  match path with
  | [] => new
  | slot :: path =>
      match n.children[slot]? with
      | none => n
      | some child => n.setChild slot (child.replaceAt path new)

/-! ## Traversal -/

mutual

/-- The nodes of a tree, an owner before its children and these in the order of their slots. -/
def preorder : Node O → List (Node O)
  | window w => window w :: preorderAll w.children
  | dialog d => dialog d :: d.window.children.map element
  | element e => [element e]
  | probe p => [probe p]

/-- The nodes of several trees, one tree after the other. -/
def preorderAll : List (Node O) → List (Node O)
  | [] => []
  | child :: rest => preorder child ++ preorderAll rest

end

end Node

end TouchPanel
