import TouchPanel.Proofs.Tree.Node

/-!
# What a step of a tree draws

A step of a widget tree draws each node that it gets to once or not at all. Whether it does is
decided by the dirty flags on the way from the root to the node, although each of them is cleared
before the next one is looked at: a container hands its own down to its children first.

* `Node.drawnAt` — the drawing of the node at the end of a path, in a step of the tree.
* `Node.drawingUnder_eq_flatMap` — the step draws these in preorder.
* `Node.exists_at?_nextUnder` — an active node is stepped as a tree of its own, under an owner
  that was repainted when any of its owners is dirty, and at the sum of their positions.
* `Node.step_redraws` — the law that follows.
-/

namespace TouchPanel

namespace Node

variable {O : Type}

-- ---------------------------------------------------------------------------
-- All nodes
-- ---------------------------------------------------------------------------

/-- What a step of a tree draws for the node at the end of a path. -/
def drawnAt (measure : TextMeasure) (tick : Tick) :
    Bool → Point → Node O → List Nat → List Primitive
  | repainted, origin, n, [] => n.own measure repainted origin tick
  | repainted, origin, n, slot :: path =>
      if n.finished then [] else (n.children[slot]?).elim [] fun child =>
        if child.state.visible then
          drawnAt measure tick (n.state.dirty || repainted) (n.state.globalPosition origin) child
            path
        else []

/-- A step of a tree draws its nodes in preorder. -/
theorem drawingUnder_eq_flatMap (measure : TextMeasure) (repainted : Bool) (origin : Point)
    (tick : Tick) (n : Node O) :
    n.drawingUnder measure repainted origin tick =
      n.paths.flatMap (drawnAt measure tick repainted origin n) := by
  induction n using induct_children generalizing repainted origin with
  | h n ih =>
    rw [drawingUnder_eq_own, paths_eq, List.flatMap_cons, drawnAt]
    congr 1
    cases hFinished : n.finished with
    | true =>
      -- nothing below a finished dialog is drawn
      have hNothing : (pathsAll 0 n.children).flatMap (drawnAt measure tick repainted origin n) =
          n.children.flatMap fun _ => [] :=
        flatMap_pathsAll fun slot child hSlot => by simp [drawnAt, hFinished]
      rw [hNothing, if_pos rfl]
      simp
    | false =>
      rw [if_neg (by simp)]
      refine (flatMap_pathsAll fun slot child hSlot => ?_).symm
      simp only [Nat.zero_add, drawnAt, hFinished, Bool.false_eq_true, if_false, hSlot,
        Option.elim_some]
      cases child.state.visible with
      | true => exact (ih child (List.mem_of_getElem? hSlot) _ _).symm
      | false => simp

/-- The node below which nothing is active draws nothing. -/
theorem drawnAt_of_not_active (measure : TextMeasure) (tick : Tick) {n : Node O}
    {path : List Nat} (hIdle : ¬∃ node, n.Active path node) (repainted : Bool) (origin : Point) :
    drawnAt measure tick repainted origin n path = [] := by
  induction path generalizing n repainted origin with
  | nil =>
    have hFinished : n.finished = true := by
      by_contra hNot
      exact hIdle ⟨n, .root (Bool.not_eq_true _ ▸ hNot)⟩
    cases n with
    | dialog d => exact if_pos hFinished
    | element | window | probe => cases hFinished
  | cons slot path ih =>
    rw [drawnAt]
    split
    · rfl
    · rename_i hUnfinished
      cases hChild : n.children[slot]? with
      | none => rfl
      | some child =>
        rw [Option.elim_some]
        split
        · rename_i hVisible
          refine ih (fun hActive => ?_) _ _
          obtain ⟨node, hNode⟩ := hActive
          exact hIdle ⟨node, active_cons_iff.mpr
            ⟨Bool.not_eq_true _ ▸ hUnfinished, child, hChild, hVisible, hNode⟩⟩
        · rfl

/-- Whether one of the nodes above the end of a path is dirty. -/
def dirtyAbove (n : Node O) (path : List Nat) : Bool :=
  (n.owners path).any fun owner => owner.state.dirty

theorem dirtyAbove_cons {n child : Node O} {slot : Nat} (path : List Nat)
    (hChild : n.children[slot]? = some child) :
    n.dirtyAbove (slot :: path) = (n.state.dirty || child.dirtyAbove path) := by
  simp only [dirtyAbove, owners, hChild, Option.elim_some, List.any_cons]

theorem corner_owners_cons {n child : Node O} {slot : Nat} (origin : Point) (path : List Nat)
    (hChild : n.children[slot]? = some child) :
    corner origin (n.owners (slot :: path)) =
      corner (n.state.globalPosition origin) (child.owners path) := by
  rw [owners, hChild, Option.elim_some, corner_cons]

/-- **The step of an inner node.** An active node is stepped as a tree of its own: under an owner
that was repainted if one of its owners is dirty, and at the place to which they move the
origin. -/
theorem exists_at?_nextUnder (measure : TextMeasure) (tick : Tick) {n node : Node O}
    {path : List Nat} (hActive : n.Active path node) (repainted : Bool) (origin : Point) :
    ∃ node', (n.nextUnder repainted origin tick).at? path = some node' ∧
      Alike (node.nextUnder (n.dirtyAbove path || repainted) (corner origin (n.owners path)) tick)
        node' ∧
      drawnAt measure tick repainted origin n path =
        node.own measure (n.dirtyAbove path || repainted) (corner origin (n.owners path))
          tick := by
  induction path generalizing n repainted origin with
  | nil =>
    obtain ⟨rfl, -⟩ := active_nil_iff.mp hActive
    simp only [dirtyAbove, owners, List.any_nil, Bool.false_or, corner_nil]
    exact ⟨_, rfl, .refl _, rfl⟩
  | cons slot path ih =>
    obtain ⟨hUnfinished, child, hChild, hVisible, hActive⟩ := active_cons_iff.mp hActive
    have hAbove : (n.dirtyAbove (slot :: path) || repainted) =
        (child.dirtyAbove path || (n.state.dirty || repainted)) := by
      rw [dirtyAbove_cons path hChild, Bool.or_comm n.state.dirty, Bool.or_assoc]
    obtain ⟨child', hChild', hAlike⟩ :=
      exists_child_nextUnder repainted origin tick hUnfinished hChild
    rw [turn, if_pos hVisible] at hAlike
    obtain ⟨node₁, hNode₁, hAlike₁, hDrawn⟩ := ih hActive (n.state.dirty || repainted)
      (n.state.globalPosition origin)
    obtain ⟨node', hNode', hAlike'⟩ := hAlike.exists_at? hNode₁
    rw [hAbove, corner_owners_cons origin path hChild]
    refine ⟨node', ?_, hAlike₁.trans hAlike', ?_⟩
    · rw [at?, hChild', Option.bind_some, hNode']
    · rw [drawnAt, hUnfinished, if_neg (by simp), hChild, Option.elim_some, if_pos hVisible,
        hDrawn]

-- ---------------------------------------------------------------------------
-- The law
-- ---------------------------------------------------------------------------

section Law

variable [OutcomeLabel O] {n n' : Node O} {origin : Point} {tick : Tick} {s t : Recorder}
  {events : List Event}

/-- **What a step of a tree draws.** The step draws one picture after the other, in preorder:

* for an active node that is dirty, or has a dirty owner, or is a button that is pressed or
  released in this step, what it looks like afterwards, at the sum of the origin and the
  positions from the root down to the node;
* for every other node nothing.

Afterwards the active nodes are clean, probes apart. A child that is not active although its
owner is becomes dirty if the owner was, or a node above it; nothing else in it is changed. -/
theorem step_redraws (hRun : (n.step origin tick).run s = .done n' t events) :
    n.paths.Nodup ∧ n.paths.map n.at? = n.preorder.map some ∧
    ∃ drawn : List Nat → List Primitive,
      t = { s with drawn := s.drawn ++ n.paths.flatMap drawn } ∧
      (∀ path, (¬∃ node, n.Active path node) → drawn path = []) ∧
      ∀ path node, n.Active path node → ∃ node', n'.at? path = some node' ∧
        (drawn path =
          if (node.state.dirty || n.dirtyAbove path) = true ∨ node'.pressed? ≠ node.pressed? then
            node'.picture (Canvas.textSize s) (corner origin (n.owners path ++ [node]))
          else []) ∧
        (node.isProbe = false → node'.state.dirty = false) ∧
        ∀ slot child, node.children[slot]? = some child → ¬n.Active (path ++ [slot]) child →
          ∃ child', n'.at? (path ++ [slot]) = some child' ∧
            child'.state = { child.state with
              dirty := child.state.dirty || (node.state.dirty || n.dirtyAbove path) } ∧
            child'.pressed? = child.pressed? ∧ child'.children = child.children := by
  obtain ⟨rfl, -, hDrawn⟩ := n.sound.ends_step.mp (Paint.Ends.of_run hRun)
  rw [Recorder.ends_drawAll] at hDrawn
  have hPaths : StepModel.drawing (Canvas.textSize s) origin tick n =
      n.paths.flatMap (drawnAt (Canvas.textSize s) tick false origin n) :=
    drawingUnder_eq_flatMap (Canvas.textSize s) false origin tick n
  refine ⟨n.nodup_paths, n.map_at?_paths, drawnAt (Canvas.textSize s) tick false origin n, ?_, ?_,
    ?_⟩
  · rw [hDrawn, hPaths]
  · exact fun path hIdle => drawnAt_of_not_active _ tick hIdle false origin
  intro path node hActive
  have hUnfinished := hActive.unfinished
  obtain ⟨node', hNode', hAlike, hOwn⟩ :=
    exists_at?_nextUnder (Canvas.textSize s) tick hActive false origin
  rw [Bool.or_false] at hAlike hOwn
  refine ⟨node', hNode', ?_, fun hProbe => ?_, fun slot child hChild hIdle => ?_⟩
  · rw [hOwn, own_eq _ _ _ _ hUnfinished, corner_concat, hAlike.pressed, hAlike.picture]
  · rw [hAlike.state, state_nextUnder _ _ _ hUnfinished hProbe]
    rfl
  · have hNotStepped : child.state.visible = true → child.finished = true := by
      intro hVisible
      by_contra hNot
      exact hIdle (hActive.child hChild hVisible (Bool.not_eq_true _ ▸ hNot))
    obtain ⟨child', hChild', hSame⟩ := exists_child_nextUnder (n.dirtyAbove path)
      (corner origin (n.owners path)) tick hUnfinished hChild
    rw [turn_of_idle hNotStepped] at hSame
    refine ⟨child', ?_, ?_, ?_, ?_⟩
    · have hAt := at?_concat slot hNode'
      rw [hAlike.children, hChild'] at hAt
      exact hAt
    · rw [hSame.state, state_markedIf]
    · rw [hSame.pressed, pressed?_markedIf]
    · rw [hSame.children, children_markedIf]

/-- A clean window with a dirty one in it, next to a dialog that was resolved. In the inner window
are a clean button and a label that is hidden. -/
def nested : Node UInt32 :=
  .window
    { (Window.new ⟨10, 20, 200, 100⟩ .standard 4 : Window (Node UInt32)) with
      state := (WidgetState.ofRect ⟨10, 20, 200, 100⟩).clearDirty
      children :=
        [.window
            { (Window.new ⟨5, 5, 90, 60⟩ .standard 4 : Window (Node UInt32)) with
              children :=
                [.element ((Element.button (.new ⟨4, 8, 30, 20⟩ "A" .standard)).mapState .clearDirty),
                  .element ((Element.label (.new ⟨4, 30, 60, 20⟩ "B" .standard)).mapState
                    fun state => state.setVisible false)] },
          .dialog { (ModalDialog.new ⟨100, 5, 90, 60⟩ .standard 2 : ModalDialog UInt32) with
            outcome := some 1 }] }

/-- The button is pressed in this step. It is drawn like that at the sum of all positions, and is
clean afterwards. The hidden label and the resolved dialog are not drawn, and the label stays
dirty. -/
theorem step_redraws_nested :
    ∃ n' t events,
      (nested.step ⟨1, 2⟩ ⟨10, some ⟨22, 37⟩⟩).run (⟨⟨320, 240⟩, ⟨8, 16⟩, []⟩ : Recorder) =
        .done n' t events ∧
      ∃ drawn : List Nat → List Primitive, t.drawn = nested.paths.flatMap drawn ∧
        drawn [0, 0] = [.rect ⟨20, 35, 30, 20⟩ Style.standard.buttonPressedColor,
          .text ⟨31, 37⟩ "A" Style.standard.textColor] ∧
        drawn [0, 1] = [] ∧ drawn [1] = [] ∧
        ∃ button label, n'.at? [0, 0] = some button ∧ n'.at? [0, 1] = some label ∧
          button.state.dirty = false ∧ label.state.dirty = true := by
  have hLook : ((nested.step ⟨1, 2⟩ ⟨10, some ⟨22, 37⟩⟩).run
      (⟨⟨320, 240⟩, ⟨8, 16⟩, []⟩ : Recorder)).value?.bind (fun n => (n.at? [0, 0]).map
        (picture (Canvas.textSize (⟨⟨320, 240⟩, ⟨8, 16⟩, []⟩ : Recorder)) ⟨20, 35⟩)) =
      some [.rect ⟨20, 35, 30, 20⟩ Style.standard.buttonPressedColor,
        .text ⟨31, 37⟩ "A" Style.standard.textColor] := by
    decide +kernel
  obtain ⟨n', hValue, hLook⟩ := Option.bind_eq_some_iff.mp hLook
  obtain ⟨t, events, hRun⟩ := Paint.exists_run_of_value? hValue
  obtain ⟨-, -, drawn, hDrawn, hIdle, hActive⟩ := step_redraws hRun
  have hLabel : ¬∃ node, nested.Active [0, 1] node := by
    rintro ⟨node, hNode⟩
    obtain ⟨-, window, ⟨⟩, -, hNode⟩ := active_cons_iff.mp hNode
    obtain ⟨-, label, ⟨⟩, hVisible, -⟩ := active_cons_iff.mp hNode
    cases hVisible
  have hDialog : ¬∃ node, nested.Active [1] node := by
    rintro ⟨node, hNode⟩
    obtain ⟨-, dialog, ⟨⟩, -, hNode⟩ := active_cons_iff.mp hNode
    cases (active_nil_iff.mp hNode).2
  obtain ⟨-, -, -, -, hChildren⟩ := hActive [0] _
    (active_cons_iff.mpr ⟨rfl, _, rfl, rfl, .root rfl⟩)
  obtain ⟨label, hLabelAt, hLabelState, -⟩ := hChildren 1 _ rfl fun h => hLabel ⟨_, h⟩
  obtain ⟨button, hButtonAt, hPicture, hClean, -⟩ := hActive [0, 0] _
    (active_cons_iff.mpr ⟨rfl, _, rfl, rfl, active_cons_iff.mpr ⟨rfl, _, rfl, rfl, .root rfl⟩⟩)
  rw [hButtonAt, Option.map_some, Option.some.injEq] at hLook
  rw [if_pos (.inl rfl)] at hPicture
  refine ⟨n', t, events, hRun, drawn, by rw [hDrawn, List.nil_append], hPicture.trans hLook,
    hIdle _ hLabel, hIdle _ hDialog, button, label, hButtonAt, hLabelAt, hClean rfl, ?_⟩
  rw [hLabelState]
  rfl

end Law

end Node

end TouchPanel
