import TouchPanel.Proofs.Step.Tree

/-!
# Steps that cannot fail

A canvas can make a step fail: a text may have no size, and a thing may not be drawn. Where neither
happens there is one thing left that can go wrong. A label or a button moves its text down from the
edge of its area by half of the height that the text leaves over, a button moves it to the right as
well, and the exact sum need not be in the plane.

More is left over by a smaller text, so the worst text of all has no extent. A step that succeeds
for such texts succeeds for all, whatever sizes a canvas reports, and also if it reports other ones
after every primitive.

* `Canvas.Unfailing` — a canvas that does not make a step fail.
* `Widget.Unfailing` — a step that ends on every such canvas.
* `StepModel.Sound.drawable_of_ends`, `Node.unfailing_of_drawable` — these are the steps for which
  texts without extent have places.
-/

namespace TouchPanel

-- ---------------------------------------------------------------------------
-- Computations that succeed
-- ---------------------------------------------------------------------------

namespace Paint

variable {σ α β : Type} {ready : σ → Prop}

/-- On a surface that is ready the computation ends without a fault, and the surface is ready
afterwards. -/
def Succeeds (ready : σ → Prop) (m : Paint σ α) : Prop :=
  ∀ s, ready s → ∃ a t, m.Ends s a t ∧ ready t

theorem succeeds_pure (a : α) : (pure a : Paint σ α).Succeeds ready :=
  fun s hReady => ⟨a, s, ends_pure.mpr ⟨rfl, rfl⟩, hReady⟩

theorem Succeeds.bind {m : Paint σ α} {f : α → Paint σ β} (hFirst : m.Succeeds ready)
    (hRest : ∀ a, (f a).Succeeds ready) : (m >>= f).Succeeds ready := by
  intro s hReady
  obtain ⟨a, t, hEnds, hReady⟩ := hFirst s hReady
  obtain ⟨b, u, hLater, hReady⟩ := hRest a t hReady
  exact ⟨b, u, ends_bind.mpr ⟨a, t, hEnds, hLater⟩, hReady⟩

/-- A sum that is a word is taken over. -/
theorem succeeds_addExact {a b : Word} (h : a.toNat + b.toNat < 1 <<< 64) :
    (liftM (a.addExact b) : Paint σ Word).Succeeds ready := by
  rw [Word.addExact_of_lt h]
  exact succeeds_pure (a + b)

end Paint

-- ---------------------------------------------------------------------------
-- Canvases that do not fail
-- ---------------------------------------------------------------------------

/-- On a canvas that is ready every text has a size and everything can be drawn, and the canvas is
ready for more then. The sizes may be any, and may change. -/
structure Canvas.Unfailing {σ : Type} [Canvas σ] (ready : σ → Prop) : Prop where
  exists_textSize {s : σ} : ready s → ∀ text, ∃ size, Canvas.textSize s text = .ok size
  succeeds_draw (p : Primitive) : p.draw.Succeeds ready

section Drawing

variable {σ : Type} [Canvas σ] {ready : σ → Prop}

theorem Canvas.Unfailing.succeeds_measure (hCanvas : Canvas.Unfailing ready) (text : String) :
    (Canvas.measure text).Succeeds ready := by
  intro s hReady
  obtain ⟨size, hSize⟩ := hCanvas.exists_textSize hReady text
  exact ⟨size, s, Canvas.ends_measure.mpr ⟨hSize, rfl⟩, hReady⟩

theorem Canvas.Unfailing.succeeds_drawAll (hCanvas : Canvas.Unfailing ready)
    (drawing : List Primitive) : (Primitive.drawAll drawing).Succeeds ready := by
  induction drawing with
  | nil => exact Paint.succeeds_pure ()
  | cons first rest ih =>
    rw [Primitive.drawAll, Paint.forEach_cons]
    exact (hCanvas.succeeds_draw first).bind fun _ => ih

end Drawing

/-- A recorder whose characters have no width finds a size for every text, however long. -/
theorem Recorder.unfailing :
    Canvas.Unfailing fun canvas : Recorder => canvas.charSize.width = 0 where
  exists_textSize {canvas} hReady text := by
    refine ⟨⟨UInt64.ofNat (text.length * 0), canvas.charSize.height⟩, ?_⟩
    simp only [Canvas.textSize, hReady, Word.timesExact, UInt64.toNat_zero, Nat.mul_zero]
    rfl
  succeeds_draw p canvas hReady := ⟨(), _, Recorder.ends_draw.mpr rfl, hReady⟩

/-- A step that ends on every canvas that does not fail. -/
def Widget.Unfailing {α : Type} [Widget α] (origin : Point) (tick : Tick) (w : α) : Prop :=
  ∀ (σ : Type) [Canvas σ] (ready : σ → Prop), Canvas.Unfailing ready →
    (Widget.step origin tick w : Paint σ α).Succeeds ready

-- ---------------------------------------------------------------------------
-- Texts without extent
-- ---------------------------------------------------------------------------

/-- The measure of which no text takes any room. -/
def TextMeasure.blank : TextMeasure := fun _ => .ok ⟨0, 0⟩

/-- The recorder that measures texts in this way. -/
def Recorder.blank : Recorder := ⟨⟨0, 0⟩, ⟨0, 0⟩, []⟩

theorem Recorder.textSize_blank : Canvas.textSize Recorder.blank = TextMeasure.blank := by
  funext text
  simp only [Canvas.textSize, Recorder.blank, Word.timesExact, UInt64.toNat_zero, Nat.mul_zero]
  rfl

/-- A step that ends on this recorder has places for texts without extent. -/
theorem StepModel.Sound.drawable_of_ends {α : Type} [Widget α] [StepModel α] {w w' : α}
    (hSound : StepModel.Sound w) {origin : Point} {tick : Tick} {t : Recorder}
    (hEnds : (Widget.step origin tick w).Ends Recorder.blank w' t) :
    StepModel.Drawable .blank origin tick w := by
  rw [← Recorder.textSize_blank]
  exact (hSound.ends_step.mp hEnds).2.1

namespace Element

/-- The middle of an area, as far as the text of the element is moved towards it, is in the
plane. -/
def MiddleInPlane (area : Rect) : Element → Prop
  | label _ => area.y.toNat + area.height.toNat / 2 < 1 <<< 64
  | button _ =>
      area.x.toNat + area.width.toNat / 2 < 1 <<< 64 ∧
        area.y.toNat + area.height.toNat / 2 < 1 <<< 64

/-- The middle of an area that ends inside the plane is in the plane. -/
theorem middleInPlane_of_lt {area : Rect} (e : Element)
    (hRight : area.x.toNat + area.width.toNat < 1 <<< 64)
    (hBottom : area.y.toNat + area.height.toNat < 1 <<< 64) : e.MiddleInPlane area := by
  rcases e with l | b
  · show area.y.toNat + area.height.toNat / 2 < 1 <<< 64
    omega
  · show area.x.toNat + area.width.toNat / 2 < 1 <<< 64 ∧
      area.y.toNat + area.height.toNat / 2 < 1 <<< 64
    omega

/-- No text is moved past the middle. -/
theorem MiddleInPlane.corner {area : Rect} {e : Element} (h : e.MiddleInPlane area) (size : Size) :
    e.CornerInPlane area size := by
  cases e with
  | label l =>
    simp only [MiddleInPlane, CornerInPlane, Word.toNat_half, Word.toNat_subSat] at h ⊢
    omega
  | button b =>
    simp only [MiddleInPlane, CornerInPlane, Word.toNat_half, Word.toNat_subSat] at h ⊢
    omega

/-- A text without extent is moved to the middle itself. -/
theorem writable_blank_iff {area : Rect} {e : Element} :
    e.Writable .blank area ↔ e.MiddleInPlane area := by
  constructor
  · intro hWritable
    obtain ⟨_, ⟨⟩, hCorner⟩ := hWritable
    cases e with
    | label l => simpa [MiddleInPlane, CornerInPlane, Word.toNat_half] using hCorner
    | button b => simpa [MiddleInPlane, CornerInPlane, Word.toNat_half] using hCorner
  · exact fun hMiddle => ⟨⟨0, 0⟩, rfl, hMiddle.corner ⟨0, 0⟩⟩

end Element

-- ---------------------------------------------------------------------------
-- Labels and buttons
-- ---------------------------------------------------------------------------

namespace Element

variable {σ : Type} [Canvas σ] {ready : σ → Prop} {origin : Point} {tick : Tick} {e : Element}

theorem succeeds_draw (hCanvas : Canvas.Unfailing ready)
    (hMiddle : e.MiddleInPlane (e.state.globalBounds origin)) :
    (e.draw origin).Succeeds ready := by
  cases e with
  | label l =>
    refine (hCanvas.succeeds_draw (.rect _ _)).bind fun _ => ?_
    refine (hCanvas.succeeds_measure l.text).bind fun size => ?_
    refine (Paint.succeeds_addExact (hMiddle.corner size)).bind fun y => ?_
    exact hCanvas.succeeds_draw (.text _ _ _)
  | button b =>
    refine (hCanvas.succeeds_draw (.rect _ _)).bind fun _ => ?_
    refine (hCanvas.succeeds_measure b.text).bind fun size => ?_
    refine (Paint.succeeds_addExact (hMiddle.corner size).1).bind fun x => ?_
    refine (Paint.succeeds_addExact (hMiddle.corner size).2).bind fun y => ?_
    exact hCanvas.succeeds_draw (.text _ _ _)

theorem unfailing_of_drawable (h : StepModel.Drawable .blank origin tick e) :
    Widget.Unfailing origin tick e := by
  intro σ _ ready hCanvas s hReady
  cases hDirty : (e.followed origin tick).state.dirty with
  | true =>
    have hMiddle : (e.followed origin tick).MiddleInPlane
        ((e.followed origin tick).state.globalBounds origin) := by
      rw [globalBounds_followed]
      exact writable_blank_iff.mp (h hDirty)
    obtain ⟨_, t, hDraw, hReady⟩ := succeeds_draw hCanvas hMiddle s hReady
    exact ⟨_, t, (ends_step_of_dirty hDirty).mpr ⟨rfl, hDraw⟩, hReady⟩
  | false => exact ⟨_, s, (ends_step_of_clean hDirty).mpr ⟨rfl, rfl⟩, hReady⟩

end Element

-- ---------------------------------------------------------------------------
-- Windows
-- ---------------------------------------------------------------------------

namespace Window

variable {α : Type} [Widget α]

theorem succeeds_stepChildren {σ : Type} [Canvas σ] {ready : σ → Prop} {place : Point}
    {tick : Tick} {nodes : List α}
    (h : ∀ child ∈ nodes, (Widget.state child).visible = true →
      (Widget.step place tick child : Paint σ α).Succeeds ready) (slot : Nat) :
    (stepChildren place tick slot nodes).Succeeds ready := by
  induction nodes generalizing slot with
  | nil => exact Paint.succeeds_pure []
  | cons child rest ih =>
    intro s hReady
    obtain ⟨hChild, hRest⟩ := List.forall_mem_cons.mp h
    obtain ⟨child', u, hTurn, hReady⟩ : ∃ child' u,
        (if (Widget.state child).visible then (Widget.step place tick child).Ends s child' u
          else child' = child ∧ u = s) ∧ ready u := by
      split
      · rename_i hVisible
        exact hChild hVisible s hReady
      · exact ⟨child, s, ⟨rfl, rfl⟩, hReady⟩
    obtain ⟨rest', t, hLater, hReady⟩ := ih hRest (slot + 1) u hReady
    exact ⟨_, t, ends_stepChildren_cons.mpr ⟨child', u, rest', hTurn, hLater, rfl⟩, hReady⟩

/-- A window draws no text of its own. -/
theorem unfailing {w : Window α} {origin : Point} {tick : Tick}
    (hChildren : ∀ child ∈ w.marked, (Widget.state child).visible = true →
      Widget.Unfailing (w.state.globalPosition origin) tick child) :
    Widget.Unfailing origin tick w := by
  intro σ _ ready hCanvas s hReady
  obtain ⟨u, hGround, hReady⟩ : ∃ u,
      (if w.state.dirty then
          (Primitive.drawAll (w.ground (w.state.globalPosition origin))).Ends s () u
        else u = s) ∧ ready u := by
    split
    · obtain ⟨_, u, hDraw, hReady⟩ := hCanvas.succeeds_drawAll (w.ground _) s hReady
      exact ⟨u, hDraw, hReady⟩
    · exact ⟨s, rfl, hReady⟩
  obtain ⟨children, t, hSteps, hReady⟩ := succeeds_stepChildren
    (fun child hChild hVisible => hChildren child hChild hVisible σ ready hCanvas) 0 u hReady
  exact ⟨_, t, ends_step_window.mpr ⟨u, children, hGround, hSteps, rfl⟩, hReady⟩

end Window

-- ---------------------------------------------------------------------------
-- Dialogs
-- ---------------------------------------------------------------------------

theorem ModalDialog.unfailing_of_drawable {O : Type} [OutcomeLabel O] {d : ModalDialog O}
    {origin : Point} {tick : Tick} (h : StepModel.Drawable .blank origin tick d) :
    Widget.Unfailing origin tick d := by
  intro σ _ ready hCanvas s hReady
  cases hOutcome : d.outcome.isSome with
  | true => exact ⟨d, s, (ends_step_of_resolved hOutcome).mpr ⟨rfl, rfl⟩, hReady⟩
  | false =>
    have hWindow : Widget.Unfailing origin tick d.window := Window.unfailing
      fun e hElement hVisible => Element.unfailing_of_drawable (h hOutcome e hElement hVisible)
    obtain ⟨window, t, hEnds, hReady⟩ := hWindow σ ready hCanvas s hReady
    exact ⟨_, t, (ends_step_of_unresolved hOutcome).mpr ⟨window, hEnds, rfl⟩, hReady⟩

-- ---------------------------------------------------------------------------
-- Trees
-- ---------------------------------------------------------------------------

namespace Node

variable {O : Type} [OutcomeLabel O] {origin : Point} {tick : Tick}

/-- What cannot fail does not fail as the root of a tree. -/
theorem unfailing_of_root {α : Type} [Widget α] {n : Node O} {w : α} {wrap : α → Node O}
    (hStep : ∀ {σ : Type} [Canvas σ] {s t : σ} {n' : Node O},
      (n.step origin tick).Ends s n' t ↔
        ∃ w', (Widget.step origin tick w).Ends s w' t ∧ n' = wrap w')
    (h : Widget.Unfailing origin tick w) : Widget.Unfailing origin tick n := by
  intro σ _ ready hCanvas s hReady
  obtain ⟨w', t, hEnds, hReady⟩ := h σ ready hCanvas s hReady
  exact ⟨wrap w', t, hStep.mpr ⟨w', hEnds, rfl⟩, hReady⟩

theorem unfailing_probe (p : Probe) : Widget.Unfailing origin tick (probe p : Node O) := by
  intro σ _ ready _ s hReady
  exact ⟨probe p, s, ends_step_probe.mpr ⟨rfl, rfl⟩, hReady⟩

/-- **Steps that cannot fail.** A step for which texts without extent have places ends on every
canvas that does not fail. -/
theorem unfailing_of_drawable {n : Node O} (h : StepModel.Drawable .blank origin tick n) :
    Widget.Unfailing origin tick n := by
  induction n using induct_marked generalizing origin with
  | element e => exact unfailing_of_root ends_step_element (Element.unfailing_of_drawable h)
  | dialog d => exact unfailing_of_root ends_step_dialog (ModalDialog.unfailing_of_drawable h)
  | probe p => exact unfailing_probe p
  | window w ih =>
    rw [drawable_window] at h
    exact unfailing_of_root ends_step_window
      (Window.unfailing fun child hChild hVisible => ih child hChild (h child hChild hVisible))

end Node

end TouchPanel
