import Mathlib.Order.Defs.Unbundled
import TouchPanel.Proofs.Step.Tree

/-!
# What holds of a canvas however a step ends

A step may fault in the middle of what it draws, and what it has drawn by then stays. A statement
about the canvas after any step, ended or not, is a relation between the surface before and the
surface after. A computation respects the relation if they are so related whatever it comes to.

Respect is closed under all that computations are made of, if the relation is a preorder. So it is
enough to look at the three things that can be drawn on a canvas.

* `Paint.Respects`, `Canvas.Respects` — computations, and canvases.
* `Node.respects_step` — every step of a tree respects what its canvas respects.
-/

namespace TouchPanel

-- ---------------------------------------------------------------------------
-- Computations
-- ---------------------------------------------------------------------------

namespace Paint

variable {σ α β : Type} {R : σ → σ → Prop}

/-- The relation holds between the surfaces before and after, whether the computation ends or
faults. -/
def Respects (R : σ → σ → Prop) (m : Paint σ α) : Prop := ∀ s, R s (m.run s).surface

theorem Ends.surface_run {m : Paint σ α} {s t : σ} {a : α} (h : m.Ends s a t) :
    (m.run s).surface = t := by
  obtain ⟨events, hRun⟩ := h
  rw [hRun]
  rfl

variable [IsPreorder σ R]

theorem respects_pure (a : α) : (pure a : Paint σ α).Respects R := fun s => refl_of R s

theorem respects_report (events : List Event) : (report events : Paint σ Unit).Respects R :=
  fun s => refl_of R s

theorem respects_read (look : σ → α) : (read look).Respects R := fun s => refl_of R s

theorem respects_lift (x : Except Fault α) : (lift x : Paint σ α).Respects R := by
  cases x with
  | ok a => exact fun s => refl_of R s
  | error fault => exact fun s => refl_of R s

theorem Respects.bind {m : Paint σ α} {f : α → Paint σ β} (hFirst : m.Respects R)
    (hRest : ∀ a, (f a).Respects R) : (m >>= f).Respects R := by
  intro s
  have hMiddle := hFirst s
  cases hRun : m.run s with
  | faulted fault t events =>
    rw [hRun] at hMiddle
    rw [run_bind_of_faulted hRun]
    exact hMiddle
  | done a t events =>
    rw [hRun] at hMiddle
    rw [run_bind_of_done hRun, Painted.surface_following]
    exact trans_of R hMiddle (hRest a t)

/-- What follows a value that is taken over may use what the value is. -/
theorem respects_lift_bind {x : Except Fault α} {f : α → Paint σ β}
    (h : ∀ a, x = .ok a → (f a).Respects R) : (lift x >>= f).Respects R := by
  cases x with
  | ok a =>
    intro s
    rw [run_bind_of_done (run_lift_ok a s), Painted.surface_following]
    exact h a rfl s
  | error fault =>
    intro s
    rw [run_bind_of_faulted (run_lift_error fault s)]
    exact refl_of R s

theorem Respects.map {m : Paint σ α} (h : m.Respects R) (f : α → β) : (f <$> m).Respects R := by
  rw [← bind_pure_comp]
  exact h.bind fun a => respects_pure (f a)

theorem Respects.discard {m : Paint σ α} (h : m.Respects R) :
    (Functor.discard m : Paint σ Unit).Respects R := h.map _

theorem respects_forEach {f : α → Paint σ Unit} {items : List α}
    (h : ∀ a ∈ items, (f a).Respects R) : (forEach items f).Respects R := by
  induction items with
  | nil => exact respects_pure ()
  | cons a rest ih =>
    obtain ⟨hFirst, hRest⟩ := List.forall_mem_cons.mp h
    rw [forEach_cons]
    exact hFirst.bind fun _ => ih hRest

end Paint

-- ---------------------------------------------------------------------------
-- Canvases
-- ---------------------------------------------------------------------------

/-- All that is drawn on the canvas respects the relation. -/
structure Canvas.Respects {σ : Type} [Canvas σ] (R : σ → σ → Prop) : Prop where
  drawRect (area : Rect) (color : Color) : (Canvas.drawRect area color : Paint σ Unit).Respects R
  drawFrame (area : Rect) (thickness : Word) (color : Color) :
    (Canvas.drawFrame area thickness color : Paint σ Unit).Respects R
  drawText (corner : Point) (text : String) (color : Color) :
    (Canvas.drawText corner text color : Paint σ Nat).Respects R

section Widgets

variable {σ : Type} [Canvas σ] {R : σ → σ → Prop} [IsPreorder σ R]

theorem Canvas.respects_measure (text : String) : (Canvas.measure text : Paint σ Size).Respects R :=
  (Paint.respects_read _).bind fun size? => Paint.respects_lift size?

variable (hCanvas : Canvas.Respects R) (origin : Point) (tick : Tick)
include hCanvas

-- ---------------------------------------------------------------------------
-- Labels and buttons
-- ---------------------------------------------------------------------------

theorem Label.respects_step (l : Label) : (l.step origin : Paint σ Label).Respects R := by
  unfold step draw
  split
  · refine Paint.Respects.bind ?_ fun _ => Paint.respects_pure _
    refine (hCanvas.drawRect _ _).bind fun _ => ?_
    refine (Canvas.respects_measure l.text).bind fun size => ?_
    refine (Paint.respects_lift _).bind fun y => ?_
    exact (hCanvas.drawText _ _ _).discard
  · exact Paint.respects_pure l

theorem Button.respects_draw (area : Rect) (b : Button) :
    (b.draw area : Paint σ Unit).Respects R := by
  refine (hCanvas.drawRect _ _).bind fun _ => ?_
  refine (Canvas.respects_measure b.text).bind fun size => ?_
  refine (Paint.respects_lift _).bind fun x => ?_
  refine (Paint.respects_lift _).bind fun y => ?_
  exact (hCanvas.drawText _ _ _).discard

theorem Button.respects_step (b : Button) : (b.step origin tick : Paint σ Button).Respects R := by
  cases hTracked : b.track (b.state.globalBounds origin) tick.pointer
  simp only [step, hTracked]
  refine (Paint.respects_report _).bind fun _ => ?_
  split
  · exact (Button.respects_draw hCanvas _ _).bind fun _ => Paint.respects_pure _
  · exact Paint.respects_pure _

theorem Element.respects_step (e : Element) :
    (e.step origin tick : Paint σ Element).Respects R := by
  cases e with
  | label l => exact (l.respects_step hCanvas origin).map Element.label
  | button b => exact (b.respects_step hCanvas origin tick).map Element.button

-- ---------------------------------------------------------------------------
-- Windows and dialogs
-- ---------------------------------------------------------------------------

section Window

variable {α : Type}

theorem Window.respects_redraw (w : Window α) (place : Point) :
    (w.redraw place : Paint σ Unit).Respects R := by
  refine (Paint.respects_report _).bind fun _ => ?_
  refine (hCanvas.drawRect _ _).bind fun _ => ?_
  split
  · exact hCanvas.drawFrame _ _ _
  · exact Paint.respects_pure ()

variable [Widget α]

omit hCanvas in
theorem Window.respects_stepChildren {place : Point} {nodes : List α}
    (h : ∀ child ∈ nodes, (Widget.step place tick child : Paint σ α).Respects R) (slot : Nat) :
    (stepChildren place tick slot nodes : Paint σ (List α)).Respects R := by
  induction nodes generalizing slot with
  | nil => exact Paint.respects_pure []
  | cons child rest ih =>
    obtain ⟨hChild, hRest⟩ := List.forall_mem_cons.mp h
    have hLater (child' : α) : (do
        let rest ← stepChildren place tick (slot + 1) rest
        return child' :: rest : Paint σ (List α)).Respects R :=
      (ih hRest (slot + 1)).bind fun _ => Paint.respects_pure _
    rw [stepChildren]
    split
    · exact (Paint.respects_report _).bind fun _ => hChild.bind hLater
    · exact (Paint.respects_pure child).bind hLater

/-- A window respects what its canvas and the steps of its children respect. -/
theorem Window.respects_step {w : Window α}
    (h : ∀ child ∈ w.marked,
      (Widget.step (w.state.globalPosition origin) tick child : Paint σ α).Respects R) :
    (w.step origin tick : Paint σ (Window α)).Respects R := by
  unfold marked at h
  unfold step
  split
  · rename_i hDirty
    rw [if_pos hDirty] at h
    refine (Window.respects_redraw hCanvas w _).bind fun _ => ?_
    exact (Window.respects_stepChildren tick h 0).bind fun _ => Paint.respects_pure _
  · rename_i hClean
    rw [if_neg hClean] at h
    exact (Window.respects_stepChildren tick h 0).bind fun _ => Paint.respects_pure _

end Window

variable {O : Type} [OutcomeLabel O]

theorem ModalDialog.respects_step (d : ModalDialog O) :
    (d.step origin tick : Paint σ (ModalDialog O)).Respects R := by
  unfold step
  split
  · exact Paint.respects_pure d
  · refine (Window.respects_step hCanvas origin tick fun e _ =>
      e.respects_step hCanvas _ tick).bind fun window => ?_
    unfold collect
    split
    · exact Paint.respects_pure _
    · exact (Paint.respects_report _).bind fun _ => Paint.respects_pure _

-- ---------------------------------------------------------------------------
-- Trees
-- ---------------------------------------------------------------------------

/-- **Steps of trees** respect what their canvas respects, also if they fault. -/
theorem Node.respects_step (n : Node O) :
    (n.step origin tick : Paint σ (Node O)).Respects R := by
  induction n using induct_marked generalizing origin with
  | element e => exact (e.respects_step hCanvas origin tick).map element
  | dialog d => exact (d.respects_step hCanvas origin tick).map dialog
  | probe p =>
    have hProbe : (Probe.step origin tick p : Paint σ Probe).Respects R :=
      (Paint.respects_report _).bind fun _ => Paint.respects_pure p
    exact hProbe.map probe
  | window w ih =>
    rw [step_window]
    exact (Window.respects_step hCanvas origin tick fun child hChild => ih child hChild _).map window

end Widgets

end TouchPanel
