import TouchPanel.Proofs.Step.Shift
import TouchPanel.Proofs.Tree.Unfailing

/-!
# Trees that are moved

A widget tree does not know where it is on the screen: if the origin of a step and the pointer are
moved by the same amount, the tree that the step leaves is the same, and all that it draws is moved.
Only the limit of the plane could give the place away, so there has to be room between it and the
nodes that the step gets to.

* `Node.HasRoom`   — a node is in the plane wherever its tree is moved, in exact arithmetic.
* `Node.shifts`    — a tree of such nodes does not notice a move.
* `Node.step_moved` — so its steps are the same in both places.
-/

namespace TouchPanel

/-- A recorder measures every text whose characters together are no wider than the plane. -/
theorem Recorder.exists_textSize {s : Recorder} {text : String}
    (h : text.length * s.charSize.width.toNat < 1 <<< 64) :
    ∃ size, Canvas.textSize s text = .ok size := by
  refine ⟨⟨UInt64.ofNat (text.length * s.charSize.width.toNat), s.charSize.height⟩, ?_⟩
  simp only [Canvas.textSize, Word.timesExact, if_pos h]
  rfl

namespace Node

variable {O : Type} {n child node : Node O} {origin delta : Point} {tick : Tick} {path : List Nat}

-- ---------------------------------------------------------------------------
-- Room
-- ---------------------------------------------------------------------------

/-- Moved by `delta`, the node at the end of a path still ends inside the plane. Its area begins at
the sum of the origin and of all positions from the root down; nothing is held at the limit. -/
structure HasRoom (n : Node O) (origin delta : Point) (path : List Nat) (node : Node O) : Prop where
  right_lt : origin.x.toNat + ((n.owners path).map fun owner => owner.state.position.x.toNat).sum +
    node.state.position.x.toNat + node.state.size.width.toNat + delta.x.toNat < 1 <<< 64
  bottom_lt : origin.y.toNat + ((n.owners path).map fun owner => owner.state.position.y.toNat).sum +
    node.state.position.y.toNat + node.state.size.height.toNat + delta.y.toNat < 1 <<< 64

theorem toNat_corner_le (origin : Point) (chain : List (Node O)) :
    (corner origin chain).x.toNat ≤
        origin.x.toNat + (chain.map fun owner => owner.state.position.x.toNat).sum ∧
      (corner origin chain).y.toNat ≤
        origin.y.toNat + (chain.map fun owner => owner.state.position.y.toNat).sum := by
  have hHeld (a : Nat) : (UInt64.ofNat (min ((1 <<< 64) - 1) a)).toNat ≤ a := by
    rw [UInt64.toNat_ofNat_of_lt' (Nat.lt_of_le_of_lt (Nat.min_le_left _ _) (by decide))]
    exact Nat.min_le_right _ _
  exact ⟨hHeld _, hHeld _⟩

/-- There is room for the area of the node on the screen. -/
theorem HasRoom.globalBounds (h : n.HasRoom origin delta path node) :
    (node.state.globalBounds (corner origin (n.owners path))).HasRoom delta := by
  obtain ⟨hRight, hBottom⟩ := h
  obtain ⟨hx, hy⟩ := toNat_corner_le origin (n.owners path)
  constructor
  · show (node.state.position.x.addSat _).toNat + node.state.size.width.toNat + _ < _
    rw [Word.toNat_addSat]
    omega
  · show (node.state.position.y.addSat _).toNat + node.state.size.height.toNat + _ < _
    rw [Word.toNat_addSat]
    omega

theorem HasRoom.root (h : n.HasRoom origin delta [] n) :
    (n.state.globalBounds origin).HasRoom delta := by
  have hBounds := h.globalBounds
  rw [owners, corner_nil] at hBounds
  exact hBounds

/-- A node that has room in the tree has room in the subtree of a child. -/
theorem HasRoom.below {slot : Nat} (hChild : n.children[slot]? = some child)
    (h : n.HasRoom origin delta (slot :: path) node) :
    child.HasRoom (n.state.globalPosition origin) delta path node := by
  obtain ⟨hRight, hBottom⟩ := h
  rw [owners, hChild, Option.elim_some, List.map_cons, List.sum_cons] at hRight hBottom
  have hx : (n.state.globalPosition origin).x.toNat ≤
      n.state.position.x.toNat + origin.x.toNat := by
    show (n.state.position.x.addSat origin.x).toNat ≤ _
    rw [Word.toNat_addSat]
    exact Nat.min_le_right _ _
  have hy : (n.state.globalPosition origin).y.toNat ≤
      n.state.position.y.toNat + origin.y.toNat := by
    show (n.state.position.y.addSat origin.y).toNat ≤ _
    rw [Word.toNat_addSat]
    exact Nat.min_le_right _ _
  constructor
  · omega
  · omega

/-- There is room for every node that a step of the tree gets to. Probes have no area. -/
def Roomy (n : Node O) (origin delta : Point) : Prop :=
  ∀ path node, n.Active path node → node.isProbe = false → n.HasRoom origin delta path node

theorem Roomy.root (h : n.Roomy origin delta) (hUnfinished : n.finished = false)
    (hProbe : n.isProbe = false) : (n.state.globalBounds origin).HasRoom delta :=
  (h [] n (.root hUnfinished) hProbe).root

theorem Roomy.below (h : n.Roomy origin delta) (hUnfinished : n.finished = false) {slot : Nat}
    (hChild : n.children[slot]? = some child) (hVisible : child.state.visible = true) :
    child.Roomy (n.state.globalPosition origin) delta := by
  intro path node hActive hProbe
  have hInner : n.Active (slot :: path) node :=
    active_cons_iff.mpr ⟨hUnfinished, child, hChild, hVisible, hActive⟩
  exact (h _ node hInner hProbe).below hChild

-- ---------------------------------------------------------------------------
-- Trees
-- ---------------------------------------------------------------------------

/-- A tree does not notice a move if its root does not. -/
theorem shifts_of_root {α : Type} [StepModel α] {w : α} {wrap : α → Node O}
    (hRoot : StepModel.Shifts delta origin tick w)
    (hNext : ∀ origin tick, StepModel.next origin tick n = wrap (StepModel.next origin tick w))
    (hDrawing : ∀ measure origin tick,
      StepModel.drawing measure origin tick n = StepModel.drawing measure origin tick w)
    (hDrawable : ∀ measure origin tick,
      StepModel.Drawable measure origin tick n ↔ StepModel.Drawable measure origin tick w) :
    StepModel.Shifts delta origin tick n where
  next := by rw [hNext, hNext, hRoot.next]
  drawing measure := by rw [hDrawing, hDrawing, hRoot.drawing]
  drawable measure := by rw [hDrawable, hDrawable, hRoot.drawable]
  hasRoom measure := by
    rw [hDrawing]
    exact hRoot.hasRoom measure

theorem shifts_probe (p : Probe) : StepModel.Shifts delta origin tick (probe p : Node O) where
  next := rfl
  drawing _ := rfl
  drawable _ := Iff.rfl
  hasRoom _ _ hp := absurd hp List.not_mem_nil

section Shifts

variable (hPointer : ∀ place ∈ tick.pointer, place.HasRoom delta)

include hPointer

/-- An element of the tree does not notice a move, made dirty or not. -/
theorem shifts_markDirtyIf {e : Element} (h : (element e : Node O).Roomy origin delta)
    (repainted : Bool) :
    StepModel.Shifts delta origin tick (if repainted then Widget.markDirty e else e) := by
  have hArea : (e.state.globalBounds origin).HasRoom delta := h.root rfl rfl
  refine Element.shifts ?_ hPointer
  rcases repainted with - | -
  · exact hArea
  · show ((e.mapState .markDirty).state.globalBounds origin).HasRoom delta
    rw [Element.state_mapState]
    exact hArea

theorem shifts_dialog {d : ModalDialog O} (h : (dialog d).Roomy origin delta) (repainted : Bool) :
    StepModel.Shifts delta origin tick (if repainted then d.mapState .markDirty else d) := by
  -- the dialog that is stepped is this one, dirty if its owner was repainted
  have hOutcome : (if repainted then d.mapState .markDirty else d).outcome = d.outcome := by
    split
    · rfl
    · rfl
  have hPlace : (if repainted then d.mapState .markDirty else d).window.state.globalPosition origin =
      d.window.state.globalPosition origin := by
    split
    · rfl
    · rfl
  refine ModalDialog.shifts fun hUnresolved => ?_
  rw [hOutcome] at hUnresolved
  refine Window.shifts ?_ fun e hMarked hVisible => ?_
  · rw [hPlace]
    exact (h.root hUnresolved rfl).topLeft
  · rw [marked_dialog] at hMarked
    obtain ⟨e, hElement, rfl⟩ := List.mem_map.mp hMarked
    obtain ⟨slot, hSlot⟩ := List.getElem?_of_mem hElement
    have hChild : (dialog d).children[slot]? = some (element e) := by
      rw [children, List.getElem?_map, hSlot, Option.map_some]
    rw [visible_markDirtyIf] at hVisible
    rw [hPlace]
    exact shifts_markDirtyIf hPointer (h.below hUnresolved hChild hVisible) _

/-- **A tree does not notice a move** if there is room for its nodes. -/
theorem shifts [OutcomeLabel O] {n : Node O} (h : n.Roomy origin delta) (repainted : Bool) :
    StepModel.Shifts delta origin tick (n.markedIf repainted) := by
  induction n using induct generalizing repainted origin with
  | element e =>
    have hElement := shifts_markDirtyIf hPointer h repainted
    rcases repainted with - | -
    · exact shifts_of_root hElement (fun _ _ => rfl) (fun _ _ _ => rfl) fun _ _ _ => Iff.rfl
    · exact shifts_of_root hElement (fun _ _ => rfl) (fun _ _ _ => rfl) fun _ _ _ => Iff.rfl
  | dialog d =>
    have hDialog := shifts_dialog hPointer h repainted
    rcases repainted with - | -
    · exact shifts_of_root hDialog (fun _ _ => rfl) (fun _ _ _ => rfl) fun _ _ _ => Iff.rfl
    · exact shifts_of_root hDialog (fun _ _ => rfl) (fun _ _ _ => rfl) fun _ _ _ => Iff.rfl
  | probe p =>
    rcases repainted with - | -
    · exact shifts_probe p
    · exact shifts_probe _
  | window w ih =>
    -- the children have their turn made dirty or not, in either form of the window
    have hWindow {w' : Window (Node O)} (hChildren : w'.children = w.children)
        (hPlace : w'.state.globalPosition origin = w.state.globalPosition origin) :
        StepModel.Shifts delta origin tick (window w') := by
      refine shifts_of_root (Window.shifts ?_ fun child hMarked hVisible => ?_)
        (fun _ _ => next_window _ _ w') (fun _ _ _ => drawing_window _ _ _ w')
        fun _ _ _ => drawable_window _ _ _ w'
      · rw [hPlace]
        exact (h.root rfl rfl).topLeft
      · rw [marked_window, hChildren] at hMarked
        obtain ⟨child, hChild, rfl⟩ := List.mem_map.mp hMarked
        obtain ⟨slot, hSlot⟩ := List.getElem?_of_mem hChild
        have hShown : child.state.visible = true :=
          (visible_markedIf _ child).symm.trans hVisible
        rw [hPlace]
        exact ih child hChild (h.below rfl hSlot hShown) _
    rcases repainted with - | -
    · exact hWindow rfl rfl
    · exact hWindow rfl rfl

end Shifts

-- ---------------------------------------------------------------------------
-- Steps
-- ---------------------------------------------------------------------------

/-- Where there is room, all that a drawing can lack is the size of a text. -/
theorem drawable_of_roomy (h : n.Roomy origin delta) {measure : TextMeasure}
    (hTexts : ∀ path e, n.Active path (element e) → ∃ size, measure e.text = .ok size) :
    StepModel.Drawable measure origin tick n := by
  refine (drawableUnder_iff_active measure tick n false origin).mpr fun path e hActive => ?_
  rw [drawableUnder_element]
  intro _
  exact (e.writable_iff_of_hasRoom (h path _ hActive rfl).globalBounds measure).mpr
    (hTexts path e hActive)

variable [OutcomeLabel O]

/-- **A tree that is moved.** Let the nodes that a step gets to, and the pointer, be in the plane
wherever they are moved. Then the step of the tree in the other place leaves the same tree, and draws
the same things in the same order, each of them moved, and none of them held at the limit. It fails
if and only if the step in this place does, and then there is a text too long to be measured. -/
theorem step_moved
    (hRoom : ∀ path node, n.Active path node → node.isProbe = false →
      n.HasRoom origin delta path node)
    (hPointer : ∀ place ∈ tick.pointer, place.HasRoom delta) (s : Recorder) :
    (∃ n' drawn,
      (n.step origin tick).Ends s n' { s with drawn := s.drawn ++ drawn } ∧
      (n.step (origin.offset delta) (tick.moved delta)).Ends s n'
        { s with drawn := s.drawn ++ drawn.map (Primitive.moved delta) } ∧
      ∀ p ∈ drawn, p.corner.HasRoom delta) ∨
    (∃ path e, n.Active path (element e) ∧
        1 <<< 64 ≤ e.text.length * s.charSize.width.toNat) ∧
      (∀ n' t, ¬(n.step origin tick).Ends s n' t) ∧
      ∀ n' t, ¬(n.step (origin.offset delta) (tick.moved delta)).Ends s n' t := by
  have hShifts : StepModel.Shifts delta origin tick n := shifts hPointer hRoom false
  by_cases hDrawable : StepModel.Drawable (Canvas.textSize s) origin tick n
  · left
    refine ⟨_, _, n.sound.ends_step.mpr ⟨rfl, hDrawable, Recorder.ends_drawAll.mpr rfl⟩,
      n.sound.ends_step.mpr ⟨hShifts.next.symm, (hShifts.drawable _).mpr hDrawable, ?_⟩,
      hShifts.hasRoom _⟩
    rw [hShifts.drawing, Recorder.ends_drawAll]
  · right
    refine ⟨?_, fun n' t hEnds => ?_, fun n' t hEnds => ?_⟩
    · by_contra hNone
      refine hDrawable (drawable_of_roomy hRoom fun path e hActive => ?_)
      refine Recorder.exists_textSize (Nat.lt_of_not_le fun hLong => ?_)
      exact hNone ⟨path, e, hActive, hLong⟩
    · exact hDrawable (n.sound.ends_step.mp hEnds).2.1
    · exact hDrawable ((hShifts.drawable _).mp (n.sound.ends_step.mp hEnds).2.1)

/-- A window with a button in it, beside a dialog with a label. -/
def besideDialog : Node UInt32 :=
  .window
    { (Window.new ⟨10, 20, 200, 100⟩ .standard 2 : Window (Node UInt32)) with
      children :=
        [.element (.button (.new ⟨4, 8, 30, 20⟩ "A" .standard)),
          .dialog
            { window :=
                { (Window.new ⟨100, 5, 90, 60⟩ .standard 1 : Window Element) with
                  children := [.label (.new ⟨5, 10, 60, 20⟩ "B" .standard)] }
              bindings := []
              outcome := none }] }

/-- The button is pressed, here and close to the edge of the plane. -/
theorem step_moved_besideDialog :
    ∃ n' drawn,
      (besideDialog.step ⟨1, 2⟩ ⟨10, some ⟨20, 35⟩⟩).Ends (⟨⟨320, 240⟩, ⟨8, 16⟩, []⟩ : Recorder) n'
        ⟨⟨320, 240⟩, ⟨8, 16⟩, drawn⟩ ∧
      (besideDialog.step ⟨0xFFFFFFFFFFFFFE01, 302⟩ ⟨10, some ⟨0xFFFFFFFFFFFFFE14, 335⟩⟩).Ends
        (⟨⟨320, 240⟩, ⟨8, 16⟩, []⟩ : Recorder) n'
        ⟨⟨320, 240⟩, ⟨8, 16⟩, drawn.map (Primitive.moved ⟨0xFFFFFFFFFFFFFE00, 300⟩)⟩ := by
  have hElement {e : Element} {path : List Nat} {node : Node UInt32}
      (h : (element e).Active path node) : path = [] ∧ node = element e := by
    rcases path with - | ⟨slot, path⟩
    · exact ⟨rfl, (active_nil_iff.mp h).1⟩
    · obtain ⟨-, child, hChild, -⟩ := active_cons_iff.mp h
      exact absurd hChild nofun
  have hRoom : ∀ path node, besideDialog.Active path node → node.isProbe = false →
      besideDialog.HasRoom ⟨1, 2⟩ ⟨0xFFFFFFFFFFFFFE00, 300⟩ path node := by
    intro path node hActive _
    rcases path with - | ⟨slot, path⟩
    · obtain ⟨rfl, -⟩ := active_nil_iff.mp hActive
      exact ⟨by decide, by decide⟩
    obtain ⟨-, child, hChild, -, hInner⟩ := active_cons_iff.mp hActive
    rcases slot with - | - | slot
    · obtain rfl := Option.some.inj hChild
      obtain ⟨rfl, rfl⟩ := hElement hInner
      exact ⟨by decide, by decide⟩
    · obtain rfl := Option.some.inj hChild
      rcases path with - | ⟨slot, path⟩
      · obtain ⟨rfl, -⟩ := active_nil_iff.mp hInner
        exact ⟨by decide, by decide⟩
      obtain ⟨-, leaf, hLeaf, -, hLast⟩ := active_cons_iff.mp hInner
      rcases slot with - | slot
      · obtain rfl := Option.some.inj hLeaf
        obtain ⟨rfl, rfl⟩ := hElement hLast
        exact ⟨by decide, by decide⟩
      · exact absurd hLeaf nofun
    · exact absurd hChild nofun
  have hPointer : ∀ place ∈ (⟨10, some ⟨20, 35⟩⟩ : Tick).pointer,
      place.HasRoom ⟨0xFFFFFFFFFFFFFE00, 300⟩ := by
    rintro place ⟨⟩
    exact ⟨by decide, by decide⟩
  have hDone : ((besideDialog.step ⟨1, 2⟩ ⟨10, some ⟨20, 35⟩⟩).run
      (⟨⟨320, 240⟩, ⟨8, 16⟩, []⟩ : Recorder)).value?.isSome = true := by
    decide +kernel
  obtain ⟨n', hValue⟩ := Option.isSome_iff_exists.mp hDone
  obtain ⟨t, events, hRun⟩ := Paint.exists_run_of_value? hValue
  rcases step_moved hRoom hPointer ⟨⟨320, 240⟩, ⟨8, 16⟩, []⟩ with
    ⟨n', drawn, hHere, hThere, -⟩ | ⟨-, hNever, -⟩
  · exact ⟨n', drawn, hHere, hThere⟩
  · exact absurd (Paint.Ends.of_run hRun) (hNever n' t)

end Node

end TouchPanel
