import TouchPanel.Proofs.Step.Unfailing
import TouchPanel.Proofs.Tree.Redraw

/-!
# Steps that fail at the edge of the plane

Moving a widget holds it at the edge of the plane, and its area may reach beyond. Placing a text is
another matter, since the sum of a corner and half of what the text leaves over is not held: if it
is no word, the step fails. The sum is taken for an element that draws itself, and for no other node
of a tree.

* `Node.drawableUnder_iff_active` — the texts of a step have places when those of the elements do
  that it gets to.
* `Node.step_never_faults_iff` — which steps end on every canvas that does not fail.
* `Node.step_faults_lowLabel` — not all of them do.
-/

namespace TouchPanel

namespace Element

section Writable

variable (measure : TextMeasure) (area : Rect) (e : Element)

/-- The dirty flag has no part in where the text of an element goes. -/
theorem writable_markDirty : (Widget.markDirty e).Writable measure area ↔
    e.Writable measure area := by
  cases e <;> rfl

/-- Nor has what is known of the pointer. -/
theorem writable_followed (origin : Point) (tick : Tick) :
    (e.followed origin tick).Writable measure area ↔ e.Writable measure area := by
  unfold Writable
  rw [text_followed]
  cases e <;> rfl

end Writable

/-- The text of an element needs a place if the element is dirty, or is a button that is pressed or
released. -/
theorem drawable_iff {measure : TextMeasure} {origin : Point} {tick : Tick} {e : Element} :
    StepModel.Drawable measure origin tick e ↔
      (e.state.dirty = true ∨ (e.followed origin tick).pressed? ≠ e.pressed? →
        e.Writable measure (e.state.globalBounds origin)) := by
  rw [← dirty_followed, ← writable_followed measure _ e origin tick]
  rfl

end Element

namespace Node

variable {O : Type}

-- ---------------------------------------------------------------------------
-- One node
-- ---------------------------------------------------------------------------

section Root

variable (measure : TextMeasure) (repainted : Bool) (origin : Point) (tick : Tick)

/-- The text of an element needs a place if the element is dirty or made so by its owner, or is a
button that is pressed or released. -/
theorem drawableUnder_element (e : Element) :
    (element e : Node O).DrawableUnder measure repainted origin tick ↔
      ((e.state.dirty || repainted) = true ∨ (e.followed origin tick).pressed? ≠ e.pressed? →
        e.Writable measure (e.state.globalBounds origin)) := by
  cases repainted with
  | false =>
    rw [Bool.or_false]
    exact Element.drawable_iff
  | true =>
    have hDirty : (Widget.markDirty e).state.dirty = true :=
      congrArg WidgetState.dirty (e.state_mapState .markDirty)
    have hArea : (Widget.markDirty e).state.globalBounds origin = e.state.globalBounds origin :=
      (congrArg (WidgetState.globalBounds · origin) (e.state_mapState .markDirty)).trans rfl
    have hMarked : StepModel.Drawable measure origin tick (Widget.markDirty e) ↔
        e.Writable measure (e.state.globalBounds origin) := by
      simp only [Element.drawable_iff, hDirty, hArea, Element.writable_markDirty, true_or,
        forall_const]
    simp only [Bool.or_true, true_or, forall_const]
    exact hMarked

theorem drawableAllUnder_iff_forall (nodes : List (Node O)) :
    DrawableAllUnder measure repainted origin tick nodes ↔
      ∀ child ∈ nodes, child.state.visible = true →
        child.DrawableUnder measure repainted origin tick := by
  induction nodes with
  | nil => simp [DrawableAllUnder]
  | cons child rest ih => rw [DrawableAllUnder, ih, List.forall_mem_cons]

theorem childDrawable_iff (e : Element) :
    Window.ChildDrawable measure origin tick (if repainted then Widget.markDirty e else e) ↔
      (e.state.visible = true →
        (element e : Node O).DrawableUnder measure repainted origin tick) := by
  rw [Window.ChildDrawable, visible_markDirtyIf]
  rfl

/-- The texts of a step have places when that of the root does, if the root is an element, and
those of the steps of the children do. -/
theorem drawableUnder_iff_children (n : Node O) :
    n.DrawableUnder measure repainted origin tick ↔ (n.finished = false →
      (∀ e, n = element e → (element e : Node O).DrawableUnder measure repainted origin tick) ∧
      ∀ child ∈ n.children, child.state.visible = true →
        child.DrawableUnder measure (n.state.dirty || repainted) (n.state.globalPosition origin)
          tick) := by
  cases n with
  | element e => simp [finished, children]
  | probe p => simp [DrawableUnder, finished, children]
  | window w =>
    rw [DrawableUnder, drawableAllUnder_iff_forall]
    simp [finished, children, state]
  | dialog d =>
    -- the dialog that is stepped is this one, dirty if its owner was repainted
    have hOutcome : (if repainted then d.mapState .markDirty else d).outcome = d.outcome := by
      cases repainted <;> rfl
    have hPlace : (if repainted then d.mapState .markDirty else d).window.state.globalPosition
        origin = d.window.state.globalPosition origin := by
      cases repainted <;> rfl
    have hDialog : (dialog d).DrawableUnder measure repainted origin tick ↔
        (d.outcome.isSome = false →
          ∀ e ∈ (if repainted then d.mapState .markDirty else d).window.marked,
            Window.ChildDrawable measure (d.window.state.globalPosition origin) tick e) := by
      rw [DrawableUnder, ← hPlace, ← hOutcome]
      rfl
    rw [hDialog, marked_dialog, children, List.forall_mem_map, List.forall_mem_map]
    simp only [childDrawable_iff (O := O), reduceCtorEq, false_implies, implies_true, true_and]
    rfl

end Root

-- ---------------------------------------------------------------------------
-- All nodes
-- ---------------------------------------------------------------------------

/-- **The texts of a step** have places when those of the elements do that the step gets to, each
at the place to which its owners move the origin, and made dirty if one of them is dirty. -/
theorem drawableUnder_iff_active (measure : TextMeasure) (tick : Tick) (n : Node O)
    (repainted : Bool) (origin : Point) :
    n.DrawableUnder measure repainted origin tick ↔
      ∀ path e, n.Active path (element e) →
        (element e : Node O).DrawableUnder measure (n.dirtyAbove path || repainted)
          (corner origin (n.owners path)) tick := by
  induction n using induct_children generalizing repainted origin with
  | h n ih =>
    have hAbove {slot : Nat} {child : Node O} (path : List Nat)
        (hSlot : n.children[slot]? = some child) :
        (n.dirtyAbove (slot :: path) || repainted) =
          (child.dirtyAbove path || (n.state.dirty || repainted)) := by
      rw [dirtyAbove_cons path hSlot, Bool.or_comm n.state.dirty, Bool.or_assoc]
    rw [drawableUnder_iff_children]
    constructor
    · intro h path e hActive
      cases path with
      | nil =>
        obtain ⟨hRoot, hUnfinished⟩ := active_nil_iff.mp hActive
        rw [owners, corner_nil]
        exact (h hUnfinished).1 e hRoot.symm
      | cons slot path =>
        obtain ⟨hUnfinished, child, hSlot, hVisible, hInner⟩ := active_cons_iff.mp hActive
        have hChild : child ∈ n.children := List.mem_of_getElem? hSlot
        rw [hAbove path hSlot, corner_owners_cons origin path hSlot]
        exact (ih child hChild _ _).mp ((h hUnfinished).2 child hChild hVisible) path e hInner
    · intro h hUnfinished
      refine ⟨fun e hRoot => ?_, fun child hChild hVisible => ?_⟩
      · have hText := h [] e (active_nil_iff.mpr ⟨hRoot.symm, hUnfinished⟩)
        rw [owners, corner_nil] at hText
        exact hText
      · obtain ⟨slot, hSlot⟩ := List.getElem?_of_mem hChild
        refine (ih child hChild _ _).mpr fun path e hInner => ?_
        have hText := h (slot :: path) e
          (active_cons_iff.mpr ⟨hUnfinished, child, hSlot, hVisible, hInner⟩)
        rw [hAbove path hSlot, corner_owners_cons origin path hSlot] at hText
        exact hText

-- ---------------------------------------------------------------------------
-- Steps that end on every canvas
-- ---------------------------------------------------------------------------

section Steps

variable [OutcomeLabel O]

/-- **Which steps never fail.** A step of a tree ends on every canvas that does not fail itself,
whatever sizes it reports, exactly when this holds of each label and button that the step makes draw
itself, being dirty, or below a dirty node, or pressed or released: going down from the corner of
its area by half of the height, and for a button also to the right by half of the width, does not
leave the plane. -/
theorem step_never_faults_iff (n : Node O) (origin : Point) (tick : Tick) :
    (∀ (σ : Type) [Canvas σ] (ready : σ → Prop), Canvas.Unfailing ready →
      ∀ s, ready s → ∃ n' t events, (n.step origin tick).run s = .done n' t events) ↔
    ∀ path e, n.Active path (element e) →
      ((e.state.dirty || n.dirtyAbove path) = true ∨
        (e.followed (corner origin (n.owners path)) tick).pressed? ≠ e.pressed?) →
      e.MiddleInPlane (e.state.globalBounds (corner origin (n.owners path))) := by
  -- the worst texts for a step are those without extent
  have hTexts := drawableUnder_iff_active .blank tick n false origin
  simp only [drawableUnder_element, Bool.or_false, Element.writable_blank_iff] at hTexts
  rw [← hTexts]
  constructor
  · intro hEnds
    obtain ⟨n', t, events, hRun⟩ := hEnds _ _ Recorder.unfailing Recorder.blank rfl
    exact n.sound.drawable_of_ends (Paint.Ends.of_run hRun)
  · intro hDrawable σ _ ready hCanvas s hReady
    obtain ⟨n', t, ⟨events, hRun⟩, -⟩ := unfailing_of_drawable hDrawable σ ready hCanvas s hReady
    exact ⟨n', t, events, hRun⟩

/-- A window just above the lower edge of the plane. The label in it is held at the edge. -/
def lowLabel : Node UInt32 :=
  .window
    { (Window.new ⟨0, 0xFFFFFFFFFFFFFFF0, 100, 60⟩ .standard 2 : Window (Node UInt32)) with
      children := [.element (.label (.new ⟨5, 20, 60, 40⟩ "Which?" .standard))] }

/-- The recorder is ready and does not fail, but the step does: the text has no place below the edge
of the label. -/
theorem step_faults_lowLabel :
    ∃ ready : Recorder → Prop, Canvas.Unfailing ready ∧ ready ⟨⟨320, 240⟩, ⟨0, 16⟩, []⟩ ∧
      ∃ t events, (lowLabel.step .zero ⟨10, none⟩).run (⟨⟨320, 240⟩, ⟨0, 16⟩, []⟩ : Recorder) =
        .faulted (.overflow .add) t events :=
  ⟨_, Recorder.unfailing, rfl, _, _, rfl⟩

end Steps

end Node

end TouchPanel
