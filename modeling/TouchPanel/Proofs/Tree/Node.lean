import TouchPanel.Proofs.Step.Tree
import TouchPanel.Proofs.Tree.Path

/-!
# What a step does to one node

A step of a widget tree treats each node that it gets to in the same way, whatever the node is: the
node draws itself if it is dirty, or was made dirty by its owner, or is a button that is pressed
or released; it is clean afterwards; and its visible children have their turn, made dirty first
if the node was dirty itself.

* `Node.own`, `Node.turn` — what the node itself draws, and what becomes of a child.
* `own_eq`                — the node draws what it looks like after the step.
* `exists_child_nextUnder`, `state_nextUnder` — what becomes of the children and of the state.
* `drawingUnder_eq_own`   — the drawing is that of the node and then those of its children.
-/

namespace TouchPanel

namespace Node

variable {O : Type}

-- ---------------------------------------------------------------------------
-- Pictures of nodes
-- ---------------------------------------------------------------------------

/-- Whether the button is pressed, if the node is a button. -/
def pressed? : Node O → Option Bool
  | element e => e.pressed?
  | _ => none

/-- Whether the node is a probe. -/
def isProbe : Node O → Bool
  | probe _ => true
  | _ => false

/-- What a node looks like at a place, without its children: the ground and the border of a
container, the ground and the text of an element. -/
def picture (measure : TextMeasure) (place : Point) : Node O → List Primitive
  | window w => w.ground place
  | dialog d => d.window.ground place
  | element e => e.picture measure (.ofCorner place e.state.size)
  | probe _ => []

/-- What a node itself draws in a step. -/
def own (measure : TextMeasure) (repainted : Bool) (origin : Point) (tick : Tick) :
    Node O → List Primitive
  | window w =>
      if w.state.dirty || repainted then w.ground (w.state.globalPosition origin) else []
  | dialog d =>
      if d.outcome.isSome then [] else
        if d.window.state.dirty || repainted then
          d.window.ground (d.window.state.globalPosition origin)
        else []
  | element e =>
      StepModel.drawing measure origin tick (if repainted then e.mapState .markDirty else e)
  | probe _ => []

/-- What becomes of a child in a step of its owner. -/
def turn (repainted : Bool) (place : Point) (tick : Tick) (child : Node O) : Node O :=
  if child.state.visible then child.nextUnder repainted place tick else child.markedIf repainted

/-- Nodes that differ in the click that is latched, if in anything. -/
structure Alike (a b : Node O) : Prop where
  state : b.state = a.state
  children : b.children = a.children
  pressed : b.pressed? = a.pressed?
  picture : ∀ measure place, b.picture measure place = a.picture measure place

theorem Alike.refl (n : Node O) : Alike n n :=
  ⟨rfl, rfl, rfl, fun _ _ => rfl⟩

theorem Alike.trans {a b c : Node O} (hab : Alike a b) (hbc : Alike b c) : Alike a c :=
  ⟨hbc.state.trans hab.state, hbc.children.trans hab.children, hbc.pressed.trans hab.pressed,
    fun measure place => (hbc.picture measure place).trans (hab.picture measure place)⟩

theorem alike_takeClick (e : Element) :
    Alike (element e : Node O) (element (e.mapButton fun b => b.takeClick.2)) := by
  cases e with
  | label l => exact .refl _
  | button b => exact ⟨rfl, rfl, rfl, fun _ _ => rfl⟩

/-- Nodes that are alike have nodes below them that are alike. -/
theorem Alike.exists_at? {a b node : Node O} {path : List Nat} (h : Alike a b)
    (hNode : a.at? path = some node) : ∃ node', b.at? path = some node' ∧ Alike node node' := by
  cases path with
  | nil =>
    rw [at?, Option.some.injEq] at hNode
    exact ⟨b, rfl, hNode ▸ h⟩
  | cons slot path =>
    rw [at?, ← h.children] at hNode
    exact ⟨node, hNode, .refl node⟩

-- ---------------------------------------------------------------------------
-- One node
-- ---------------------------------------------------------------------------

theorem state_markedIf (n : Node O) (repainted : Bool) :
    (n.markedIf repainted).state = { n.state with dirty := n.state.dirty || repainted } := by
  cases repainted with
  | false => rw [Bool.or_false]; rfl
  | true =>
    rw [Bool.or_true]
    cases n with
    | element e => cases e <;> rfl
    | window | dialog | probe => rfl

theorem children_markedIf (n : Node O) (repainted : Bool) :
    (n.markedIf repainted).children = n.children := by
  cases repainted with
  | false => rfl
  | true => cases n <;> rfl

theorem pressed?_markedIf (n : Node O) (repainted : Bool) :
    (n.markedIf repainted).pressed? = n.pressed? := by
  cases repainted with
  | false => rfl
  | true =>
    cases n with
    | element e => cases e <;> rfl
    | window | dialog | probe => rfl

theorem nextAllUnder_eq_map (repainted : Bool) (place : Point) (tick : Tick)
    (nodes : List (Node O)) :
    nextAllUnder repainted place tick nodes = nodes.map (turn repainted place tick) := by
  induction nodes with
  | nil => rfl
  | cons child rest ih => rw [nextAllUnder, ih, List.map_cons, turn]

theorem drawingAllUnder_eq_flatMap (measure : TextMeasure) (repainted : Bool) (place : Point)
    (tick : Tick) (nodes : List (Node O)) :
    drawingAllUnder measure repainted place tick nodes = nodes.flatMap fun child =>
      if child.state.visible then child.drawingUnder measure repainted place tick else [] := by
  induction nodes with
  | nil => rfl
  | cons child rest ih => rw [drawingAllUnder, ih, List.flatMap_cons]

variable {n : Node O} (repainted : Bool) (origin : Point) (tick : Tick)

/-- The children of a dialog as they are when their turn comes: all dirty, if the dialog is or was
made so. -/
theorem marked_dialog (d : ModalDialog O) :
    (if repainted then d.mapState .markDirty else d).window.marked =
      d.window.children.map fun e =>
        if d.window.state.dirty || repainted then Widget.markDirty e else e := by
  cases repainted with
  | true =>
    rw [Bool.or_true]
    rfl
  | false =>
    rw [Bool.or_false]
    cases hDirty : d.window.state.dirty <;> simp [Window.marked, hDirty]

/-- A dialog that waits is stepped as its window is, and then one click may be taken. -/
theorem nextUnder_dialog {d : ModalDialog O} (hUnresolved : d.outcome.isSome = false) :
    (dialog d).nextUnder repainted origin tick =
      dialog ({ d with
        window := { d.window with
          state := d.window.state.clearDirty
          children := d.window.children.map fun e =>
            Window.nextChild (d.window.state.globalPosition origin) tick
              (if d.window.state.dirty || repainted then Widget.markDirty e else e) } } :
        ModalDialog O).collected := by
  have hOutcome : (if repainted then d.mapState .markDirty else d).outcome.isSome = false := by
    cases repainted <;> exact hUnresolved
  simp only [nextUnder, StepModel.next, hOutcome, Bool.false_eq_true, if_false, marked_dialog,
    List.map_map]
  cases repainted <;> rfl

theorem drawingUnder_dialog (measure : TextMeasure) {d : ModalDialog O}
    (hUnresolved : d.outcome.isSome = false) :
    (dialog d).drawingUnder measure repainted origin tick =
      (if d.window.state.dirty || repainted then
        d.window.ground (d.window.state.globalPosition origin) else []) ++
      d.window.children.flatMap fun e =>
        Window.childDrawing measure (d.window.state.globalPosition origin) tick
          (if d.window.state.dirty || repainted then Widget.markDirty e else e) := by
  have hOutcome : (if repainted then d.mapState .markDirty else d).outcome.isSome = false := by
    cases repainted <;> exact hUnresolved
  simp only [drawingUnder, StepModel.drawing, hOutcome, Bool.false_eq_true, if_false, marked_dialog,
    List.flatMap_map]
  cases repainted with
  | true =>
    rw [Bool.or_true]
    rfl
  | false =>
    rw [Bool.or_false]
    rfl

theorem visible_markDirtyIf (e : Element) :
    (Widget.state (if repainted then Widget.markDirty e else e)).visible = e.state.visible := by
  cases repainted with
  | true =>
    show (e.mapState .markDirty).state.visible = _
    rw [Element.state_mapState]
    rfl
  | false => rfl

theorem childDrawing_eq (measure : TextMeasure) (e : Element) :
    Window.childDrawing measure origin tick (if repainted then Widget.markDirty e else e) =
      if e.state.visible then
        (element e : Node O).drawingUnder measure repainted origin tick else [] := by
  rw [Window.childDrawing, visible_markDirtyIf, drawingUnder]
  rfl

theorem nextChild_eq_turn (e : Element) :
    element (Window.nextChild origin tick (if repainted then Widget.markDirty e else e)) =
      (element e : Node O).turn repainted origin tick := by
  rw [Window.nextChild, visible_markDirtyIf, turn, nextUnder, state]
  split
  · rfl
  · cases repainted <;> rfl

/-- The children of a dialog after its clicks were looked through. One may have had its click
taken. -/
theorem exists_child_collected {d : ModalDialog O} {slot : Nat} {e : Element}
    (hChild : d.window.children[slot]? = some e) :
    ∃ child', (dialog d.collected).children[slot]? = some child' ∧ Alike (element e) child' := by
  simp only [children, List.getElem?_map]
  unfold ModalDialog.collected
  split
  · exact ⟨element e, by rw [hChild]; rfl, .refl _⟩
  · rename_i id outcome _
    simp only [ModalDialog.mapButton, Window.modifyChild, List.getElem?_modify, hChild]
    by_cases hSlot : id.slot = slot
    · exact ⟨_, by simp [hSlot], alike_takeClick e⟩
    · exact ⟨_, by simp [hSlot], .refl _⟩

theorem state_collected (d : ModalDialog O) : d.collected.state = d.state := by
  unfold ModalDialog.collected
  split <;> rfl

theorem ground_collected (d : ModalDialog O) (place : Point) :
    d.collected.window.ground place = d.window.ground place := by
  unfold ModalDialog.collected
  split <;> rfl

/-- A child after a step of its owner. Of a dialog it is known up to its click only, which the
dialog may have taken. -/
theorem exists_child_nextUnder (hUnfinished : n.finished = false) {slot : Nat} {child : Node O}
    (hChild : n.children[slot]? = some child) :
    ∃ child', (n.nextUnder repainted origin tick).children[slot]? = some child' ∧
      Alike (child.turn (n.state.dirty || repainted) (n.state.globalPosition origin) tick)
        child' := by
  cases n with
  | element e => cases hChild
  | probe p => cases hChild
  | window w =>
    refine ⟨_, ?_, .refl _⟩
    have hSlot : w.children[slot]? = some child := hChild
    simp only [nextUnder, children, nextAllUnder_eq_map, List.getElem?_map, hSlot]
    rfl
  | dialog d =>
    simp only [children, List.getElem?_map, Option.map_eq_some_iff] at hChild
    obtain ⟨e, hSlot, rfl⟩ := hChild
    rw [nextUnder_dialog _ _ _ hUnfinished]
    simp only [← nextChild_eq_turn]
    refine exists_child_collected ?_
    rw [List.getElem?_map, hSlot]
    rfl

/-- What becomes of the common state of a node that is stepped. -/
theorem state_nextUnder (hUnfinished : n.finished = false) (hProbe : n.isProbe = false) :
    (n.nextUnder repainted origin tick).state = n.state.clearDirty := by
  cases n with
  | window w => rfl
  | probe p => cases hProbe
  | element e =>
    cases repainted with
    | true =>
      refine (Element.state_next origin tick (e.mapState .markDirty)).trans ?_
      rw [Element.state_mapState]
      rfl
    | false => exact e.state_next origin tick
  | dialog d =>
    rw [nextUnder_dialog _ _ _ hUnfinished]
    exact state_collected _

theorem own_eq_element (measure : TextMeasure) (e : Element) :
    (element e : Node O).own measure repainted origin tick =
      if (e.state.dirty || repainted) = true ∨
          ((element e : Node O).nextUnder repainted origin tick).pressed? ≠ e.pressed? then
        ((element e : Node O).nextUnder repainted origin tick).picture measure
          (e.state.globalPosition origin)
      else [] := by
  -- the element that is stepped is this one, dirty if its owner was repainted
  obtain ⟨e₁, hMarked, hState, hPressed⟩ : ∃ e₁ : Element,
      (if repainted then e.mapState .markDirty else e) = e₁ ∧
        e₁.state = { e.state with dirty := e.state.dirty || repainted } ∧
        e₁.pressed? = e.pressed? := by
    refine ⟨_, rfl, (element e : Node O).state_markedIf repainted ▸ ?_, ?_⟩
    · cases repainted <;> rfl
    · cases repainted with
      | true => exact Element.pressed?_mapState _ e
      | false => rfl
  have hDirty : (e₁.followed origin tick).state.dirty = true ↔
      (e.state.dirty || repainted) = true ∨
        (e₁.followed origin tick).pressed? ≠ e.pressed? := by
    rw [e₁.dirty_followed, hPressed, hState]
  have hArea : Rect.ofCorner (e.state.globalPosition origin)
      (e₁.followed origin tick).state.size = e₁.state.globalBounds origin := by
    rw [e₁.state_followed, hState]
    rfl
  have hSize : ((e₁.followed origin tick).mapState .clearDirty).state.size =
      (e₁.followed origin tick).state.size := by
    rw [Element.state_mapState]
    rfl
  simp only [own, nextUnder, hMarked, pressed?, picture, StepModel.drawing, StepModel.next,
    Element.pressed?_mapState, Element.picture_mapState, hSize, hArea, hDirty]

/-- A node draws itself if it is dirty, or is made dirty, or is a button that is pressed or
released. What it draws is what it looks like after the step. -/
theorem own_eq (measure : TextMeasure) (hUnfinished : n.finished = false) :
    n.own measure repainted origin tick =
      if (n.state.dirty || repainted) = true ∨
          (n.nextUnder repainted origin tick).pressed? ≠ n.pressed? then
        (n.nextUnder repainted origin tick).picture measure (n.state.globalPosition origin)
      else [] := by
  cases n with
  | window w =>
    have hPressed : ((window w).nextUnder repainted origin tick).pressed? =
        (window w).pressed? := rfl
    simp only [own, hPressed, ne_eq, not_true_eq_false, or_false]
    rfl
  | probe p => exact (ite_self _).symm
  | dialog d =>
    have hUnresolved : d.outcome.isSome = false := hUnfinished
    have hPressed : ((dialog d).nextUnder repainted origin tick).pressed? =
        (dialog d).pressed? := rfl
    have hPicture (place : Point) :
        ((dialog d).nextUnder repainted origin tick).picture measure place =
          d.window.ground place := by
      rw [nextUnder_dialog _ _ _ hUnresolved, picture, ground_collected]
      rfl
    simp only [own, hUnresolved, hPressed, hPicture, ne_eq, not_true_eq_false, or_false,
      Bool.false_eq_true, if_false]
    rfl
  | element e => exact own_eq_element repainted origin tick measure e

/-- What a step of a tree draws: the root first, and then what the steps of the children draw. -/
theorem drawingUnder_eq_own (measure : TextMeasure) (n : Node O) :
    n.drawingUnder measure repainted origin tick =
      n.own measure repainted origin tick ++
        if n.finished then [] else n.children.flatMap fun child =>
          if child.state.visible then
            child.drawingUnder measure (n.state.dirty || repainted)
              (n.state.globalPosition origin) tick
          else [] := by
  cases n with
  | element e => exact (List.append_nil _).symm
  | probe p => rfl
  | window w =>
    rw [drawingUnder, drawingAllUnder_eq_flatMap]
    rfl
  | dialog d =>
    cases hOutcome : d.outcome.isSome with
    | true =>
      have hStill : (if repainted then d.mapState .markDirty else d).outcome.isSome = true := by
        cases repainted <;> exact hOutcome
      simp only [drawingUnder, StepModel.drawing, hStill, own, finished, hOutcome, if_true,
        List.append_nil]
    | false =>
      rw [drawingUnder_dialog _ _ _ measure hOutcome]
      simp only [own, finished, hOutcome, Bool.false_eq_true, if_false, children,
        List.flatMap_map, childDrawing_eq (O := O)]
      rfl

/-- A child that the step does not get to becomes dirty with its owner, and nothing else. -/
theorem turn_of_idle {child : Node O}
    (hIdle : child.state.visible = true → child.finished = true) (repainted : Bool)
    (place : Point) (tick : Tick) :
    child.turn repainted place tick = child.markedIf repainted := by
  rw [turn]
  split
  · rename_i hVisible
    have hFinished := hIdle hVisible
    cases child with
    | element | window | probe => cases hFinished
    | dialog d =>
      have hResolved : d.outcome.isSome = true := hFinished
      cases repainted with
      | true =>
        have hStill : (d.mapState .markDirty).outcome.isSome = true := hResolved
        simp only [nextUnder, StepModel.next, if_true, hStill]
        rfl
      | false =>
        simp only [nextUnder, StepModel.next, Bool.false_eq_true, if_false, hResolved, if_true]
        rfl
  · rfl

end Node

end TouchPanel
