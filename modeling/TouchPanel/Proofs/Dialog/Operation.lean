import TouchPanel.Proofs.Dialog.Exec
import TouchPanel.Proofs.Step.Edit
import TouchPanel.Proofs.Step.Tree

/-!
# What is done to a dialog between runs

Outside of a run, a dialog is stepped by whoever owns it, put together, restyled, moved about and
hidden, and its buttons are clicked and reset. `DialogOperation` is one such thing. Only steps
matter to the outcome, and a step may reach the dialog in two ways: directly, or through a window
that holds it. In the second case the dialog may be hidden, and it may be made dirty first.

* `DialogOperation.perform` — does one thing, on any canvas.
* `DialogOperation.tick?`   — the tick that it gives the dialog, if it gives one.
* `perform_cases`           — it is that tick, or the outcome has no part in it.
-/

namespace TouchPanel

-- ---------------------------------------------------------------------------
-- Windows that hold a dialog
-- ---------------------------------------------------------------------------

variable {O σ : Type}

/-- The dialog, if the node is one. -/
def Node.dialog? : Node O → Option (ModalDialog O)
  | dialog d => some d
  | _ => none

namespace Window

/-- The window with a dialog in one of its slots. -/
def hold (owner : Window (Node O)) (slot : Fin owner.children.length) (d : ModalDialog O) :
    Window (Node O) :=
  { owner with children := owner.children.set slot (.dialog d) }

/-- The dialog in a slot, if there is one. -/
def held? (owner : Window (Node O)) (slot : Nat) : Option (ModalDialog O) :=
  owner.children[slot]?.bind Node.dialog?

/-- The dialog as it is when its turn comes in a step of the window. -/
def presented (owner : Window (Node O)) (d : ModalDialog O) : ModalDialog O :=
  if owner.state.dirty then d.mapState .markDirty else d

theorem visible_presented (owner : Window (Node O)) (d : ModalDialog O) :
    (owner.presented d).state.visible = d.state.visible := by
  unfold presented
  split <;> rfl

theorem outcome_presented (owner : Window (Node O)) (d : ModalDialog O) :
    (owner.presented d).outcome = d.outcome := by
  unfold presented
  split <;> rfl

theorem button?_presented (owner : Window (Node O)) (d : ModalDialog O) (id : ChildId) :
    (owner.presented d).button? id = d.button? id := by
  unfold presented
  split <;> rfl

theorem bindings_presented (owner : Window (Node O)) (d : ModalDialog O) :
    (owner.presented d).bindings = d.bindings := by
  unfold presented
  split <;> rfl

theorem getElem?_marked_hold [OutcomeLabel O] (owner : Window (Node O))
    (slot : Fin owner.children.length) (d : ModalDialog O) :
    (owner.hold slot d).marked[slot.val]? = some (.dialog (owner.presented d)) := by
  have hHeld : (owner.hold slot d).children[slot.val]? = some (.dialog d) :=
    List.getElem?_set_self slot.isLt
  have hState : (owner.hold slot d).state = owner.state := rfl
  rw [marked, presented, hState]
  cases owner.state.dirty with
  | true =>
    simp only [if_true, List.getElem?_map, hHeld]
    rfl
  | false => exact hHeld

end Window

-- ---------------------------------------------------------------------------
-- Assembly
-- ---------------------------------------------------------------------------

namespace ModalDialog

variable {d d' : ModalDialog O} {id : ChildId}

/-- A child that is added changes the window only. -/
theorem eq_of_tryAdd {child : Element} (h : d.tryAdd child = .ok (id, d')) :
    ∃ window, d' = { d with window } := by
  unfold tryAdd at h
  cases hWindow : d.window.tryAdd child with
  | error error =>
    rw [hWindow] at h
    cases h
  | ok added =>
    rw [hWindow] at h
    cases h
    exact ⟨_, rfl⟩

/-- A binding that is accepted is the last one. -/
theorem eq_of_bind {outcome : O} (h : d.bind id outcome = .ok d') :
    d' = { d with bindings := d.bindings ++ [(id, outcome)] } := by
  unfold bind at h
  split at h
  · cases h
  · split at h
    · cases h
      rfl
    · cases h

end ModalDialog

-- ---------------------------------------------------------------------------
-- Operations
-- ---------------------------------------------------------------------------

/-- One of the things that are done to a dialog. The window of a step may be another one each time;
whatever owns that window shows in its dirty flag and in `origin` only. -/
inductive DialogOperation (O : Type) where
  | step (origin : Point) (tick : Tick)
  | stepOwner (owner : Window (Node O)) (slot : Fin owner.children.length) (origin : Point)
      (tick : Tick)
  | add (child : Element)
  | tryAdd (child : Element)
  | bind (id : ChildId) (outcome : O)
  | setStyle (style : Style)
  | arrange (change : StateEdit)
  | arrangeChild (id : ChildId) (change : StateEdit)
  | editChild (id : ChildId) (change : ChildEdit)

/-- A tick that reaches a dialog: the dialog as the tick finds it, the place of its owner, and the
tick. -/
structure DialogTick (O : Type) where
  found : ModalDialog O
  place : Point
  tick : Tick

namespace DialogOperation

/-- Does one thing to a dialog. An assembly step that is refused leaves the dialog as it was, but a
child that has to be added faults. -/
def perform [OutcomeLabel O] [Canvas σ] (d : ModalDialog O) :
    DialogOperation O → Paint σ (ModalDialog O)
  | step origin tick => d.step origin tick
  | stepOwner owner slot origin tick => do
      let owner ← (owner.hold slot d).step origin tick
      return (owner.held? slot).getD d
  | add child => do
      let (_, d) ← d.add child
      return d
  | tryAdd child => return ((d.tryAdd child).toOption.map Prod.snd).getD d
  | bind id outcome => return (d.bind id outcome).toOption.getD d
  | setStyle style => return { d with window := d.window.setStyle style }
  | arrange change => return d.mapState change.apply
  | arrangeChild id change =>
      return { d with window := d.window.modifyChild id (Widget.mapState change.apply) }
  | editChild id change => do
      Paint.report ((d.window.child? id).elim [] change.events)
      return { d with window := d.window.modifyChild id change.apply }

/-- Does one thing after the other. -/
def performAll [OutcomeLabel O] [Canvas σ] :
    List (DialogOperation O) → ModalDialog O → Paint σ (ModalDialog O)
  | [], d => return d
  | operation :: rest, d => do performAll rest (← operation.perform d)

/-- The tick that an operation gives the dialog. A window gives none to a hidden dialog. -/
def tick? (d : ModalDialog O) : DialogOperation O → Option (DialogTick O)
  | step origin tick => some ⟨d, origin, tick⟩
  | stepOwner owner _ origin tick =>
      if d.state.visible then some ⟨owner.presented d, owner.state.globalPosition origin, tick⟩
      else none
  | _ => none

/-- The operation binds a button, or tries to. -/
def binds : DialogOperation O → Bool
  | bind _ _ => true
  | _ => false

/-- A tick finds the dialog with its outcome, its buttons and its bindings. -/
theorem found_of_tick? {operation : DialogOperation O} {d : ModalDialog O} {reached : DialogTick O}
    (h : operation.tick? d = some reached) :
    reached.found.outcome = d.outcome ∧ (∀ id, reached.found.button? id = d.button? id) ∧
      reached.found.bindings = d.bindings := by
  cases operation with
  | step origin tick =>
    cases h
    exact ⟨rfl, fun _ => rfl, rfl⟩
  | stepOwner owner slot origin tick =>
    rw [tick?] at h
    split at h
    · cases h
      exact ⟨owner.outcome_presented d, owner.button?_presented d, owner.bindings_presented d⟩
    · cases h
  | _ => cases h

section Perform

variable [OutcomeLabel O] [Canvas σ] {d d' : ModalDialog O} {s t : σ}

/-- A step of a window is a tick of the dialog that it holds, unless the dialog is hidden. -/
theorem perform_stepOwner_cases {owner : Window (Node O)} {slot : Fin owner.children.length}
    {origin : Point} {tick : Tick} (h : ((stepOwner owner slot origin tick).perform d).Ends s d' t) :
    if d.state.visible then
      ∃ u v : σ, ((owner.presented d).step (owner.state.globalPosition origin) tick).Ends u d' v
    else d' = owner.presented d := by
  rw [perform, Paint.ends_bind] at h
  obtain ⟨owner', _, hStep, hHeld⟩ := h
  obtain ⟨rfl, rfl⟩ := Paint.ends_pure.mp hHeld
  obtain ⟨child', hChild', hTurn⟩ :=
    Window.exists_turn_of_ends_step hStep (owner.getElem?_marked_hold slot d)
  have hVisible : (Widget.state (Node.dialog (owner.presented d))).visible = d.state.visible :=
    owner.visible_presented d
  rw [hVisible] at hTurn
  split at hTurn
  · rename_i hShown
    obtain ⟨u, v, hNode⟩ := hTurn
    obtain ⟨d', hDialog, rfl⟩ := Node.ends_step_dialog.mp hNode
    rw [if_pos hShown, Window.held?, hChild']
    exact ⟨u, v, hDialog⟩
  · rename_i hHidden
    rw [if_neg hHidden, Window.held?, hChild', hTurn]
    rfl

/-- **What an operation does to the outcome.** Either it gives the dialog a tick, and is to the
dialog what that tick is, or it leaves the outcome alone, and the bindings too unless it adds one. -/
theorem perform_cases {operation : DialogOperation O} (h : (operation.perform d).Ends s d' t) :
    (∃ reached, operation.tick? d = some reached ∧ ∃ u v : σ,
        (reached.found.step reached.place reached.tick).Ends u d' v) ∨
      operation.tick? d = none ∧ d'.outcome = d.outcome ∧
        (operation.binds = false → d'.bindings = d.bindings) := by
  cases operation with
  | step origin tick => exact .inl ⟨⟨d, origin, tick⟩, rfl, s, t, h⟩
  | stepOwner owner slot origin tick =>
    have hTurn := perform_stepOwner_cases h
    split at hTurn
    · rename_i hShown
      exact .inl ⟨⟨_, _, _⟩, if_pos hShown, hTurn⟩
    · rename_i hHidden
      rw [hTurn]
      exact .inr ⟨if_neg hHidden, owner.outcome_presented d, fun _ => owner.bindings_presented d⟩
  | add child =>
    obtain ⟨⟨id, added⟩, _, hAdd, hEnd⟩ := Paint.ends_bind.mp h
    obtain ⟨rfl, -⟩ := Paint.ends_pure.mp hEnd
    obtain ⟨hAdd, -⟩ := Paint.ends_lift.mp hAdd
    unfold ModalDialog.add at hAdd
    cases hTry : d.tryAdd child with
    | error error =>
      rw [hTry] at hAdd
      cases hAdd
    | ok free =>
      rw [hTry] at hAdd
      cases hAdd
      obtain ⟨window, rfl⟩ := ModalDialog.eq_of_tryAdd hTry
      exact .inr ⟨rfl, rfl, fun _ => rfl⟩
  | tryAdd child =>
    obtain ⟨rfl, -⟩ := Paint.ends_pure.mp h
    refine .inr ⟨rfl, ?_⟩
    cases hTry : d.tryAdd child with
    | error error => exact ⟨rfl, fun _ => rfl⟩
    | ok free =>
      obtain ⟨window, hAdded⟩ := ModalDialog.eq_of_tryAdd hTry
      show free.2.outcome = _ ∧ (_ → free.2.bindings = _)
      rw [hAdded]
      exact ⟨rfl, fun _ => rfl⟩
  | bind id outcome =>
    obtain ⟨rfl, -⟩ := Paint.ends_pure.mp h
    refine .inr ⟨rfl, ?_, fun hOther => nomatch hOther⟩
    cases hBind : d.bind id outcome with
    | error error => rfl
    | ok bound =>
      rw [ModalDialog.eq_of_bind hBind]
      rfl
  | setStyle style =>
    obtain ⟨rfl, -⟩ := Paint.ends_pure.mp h
    exact .inr ⟨rfl, rfl, fun _ => rfl⟩
  | arrange change =>
    obtain ⟨rfl, -⟩ := Paint.ends_pure.mp h
    exact .inr ⟨rfl, rfl, fun _ => rfl⟩
  | arrangeChild id change =>
    obtain ⟨rfl, -⟩ := Paint.ends_pure.mp h
    exact .inr ⟨rfl, rfl, fun _ => rfl⟩
  | editChild id change =>
    obtain ⟨_, _, -, hEdit⟩ := Paint.ends_bind.mp h
    obtain ⟨rfl, -⟩ := Paint.ends_pure.mp hEdit
    exact .inr ⟨rfl, rfl, fun _ => rfl⟩

end Perform

end DialogOperation

end TouchPanel
