import TouchPanel.Dialog.Exec
import TouchPanel.Proofs.Assembly.Window
import TouchPanel.Proofs.Step.Dialog

/-!
# Putting dialogs together

A dialog is put together like its window, and some of its buttons are bound to outcomes. There is
room for as many bindings as for children, but a button may be bound several times or not at all, so
that either of the two may be full while the other is not. Steps and runs take clicks and reset
buttons, but leave every child in its slot and of its kind. So a binding that was accepted always
names a button.

* `DialogCall`         — what is done to a dialog while it is put together.
* `ModalDialog.Kept`   — all children are still in their slots, and the bindings are the same.
* `ModalDialog.Wired`  — the invariant: nothing is over-full, and all bindings name buttons.
* `wired_of_ends_perform` — every call keeps it.
* `ModalDialog.Assembled` — what can be said of every call in a run.
* `assembled_runs`     — so it is, for all runs of windows and of dialogs.
-/

namespace TouchPanel

-- ---------------------------------------------------------------------------
-- Calls
-- ---------------------------------------------------------------------------

/-- What is done to a dialog while it is put together. -/
inductive DialogCall (O : Type) where
  | tryAdd (child : Element)
  | add (child : Element)
  | bind (id : ChildId) (outcome : O)
  | step (origin : Point) (tick : Tick)
  | exec (ticks : List Tick)
  | window (call : WindowCall Element)

/-- The changes that a dialog makes to its buttons by itself. -/
def ModalDialog.ownEdits : List (Element → Element) :=
  [.mapButton fun b => b.takeClick.2, .mapButton fun b => b.reset.1]

namespace DialogCall

variable {O σ : Type} [OutcomeLabel O] [Canvas σ]

/-- Makes a call. A binding that is refused leaves the dialog as it was. -/
def perform (d : ModalDialog O) : DialogCall O → Paint σ (Reply × ModalDialog O)
  | tryAdd child => return Reply.ofTryAdd d (d.tryAdd child)
  | add child => return Reply.ofAdd d (d.add child)
  | bind id outcome => return match d.bind id outcome with
      | .ok bound => (.done, bound)
      | .error error => (.refused error, d)
  | step origin tick => return (.done, ← d.step origin tick)
  | exec ticks => return (.done, (← d.exec ticks).1)
  | window call => do
      let (reply, changed) ← call.perform d.window
      return (reply, { d with window := changed })

/-- Makes one call after the other, whatever they answer. -/
def performAll : List (DialogCall O) → ModalDialog O → Paint σ (ModalDialog O)
  | [], d => return d
  | call :: rest, d => do performAll rest (← call.perform d).2

/-- The changes that a call makes to the child in a slot. -/
def editsOf (slot : Nat) : DialogCall O → List (Element → Element)
  | tryAdd _ => []
  | add _ => []
  | bind _ _ => []
  | step _ _ => ModalDialog.ownEdits
  | exec _ => ModalDialog.ownEdits
  | window call => call.editsOf slot

/-- The changes that calls make to the child in a slot. -/
def editsOfAll (calls : List (DialogCall O)) (slot : Nat) : List (Element → Element) :=
  calls.flatMap (editsOf slot)

/-- The child that a call adds, if it adds one. -/
def child? : DialogCall O → Option Element
  | tryAdd child => some child
  | add child => some child
  | window call => call.child?
  | _ => none

/-- The call puts nothing else in the place of a button, nor a button in the place of something
else. -/
def KeepsButtons : DialogCall O → Prop
  | window call => ∀ slot, ∀ change ∈ call.editsOf slot, ∀ e : Element,
      (change e).button?.isSome = e.button?.isSome
  | _ => True

omit [OutcomeLabel O] in
/-- What a dialog does to its buttons by itself keeps them too. -/
theorem KeepsButtons.isSome_button? {call : DialogCall O} (h : call.KeepsButtons) {slot : Nat}
    {change : Element → Element} (hChange : change ∈ call.editsOf slot) (e : Element) :
    (change e).button?.isSome = e.button?.isSome := by
  have hOwn (hMem : change ∈ ModalDialog.ownEdits) :
      (change e).button?.isSome = e.button?.isSome := by
    simp only [ModalDialog.ownEdits, List.mem_cons, List.not_mem_nil, or_false] at hMem
    rcases hMem with rfl | rfl
    · cases e <;> rfl
    · cases e <;> rfl
  cases call with
  | tryAdd child => cases hChange
  | add child => cases hChange
  | bind id outcome => cases hChange
  | step origin tick => exact hOwn hChange
  | exec ticks => exact hOwn hChange
  | window call => exact h slot change hChange e

omit [OutcomeLabel O] in
/-- Moving a child, showing and hiding it and making it dirty keeps it as it is otherwise. -/
theorem keepsButtons_mapState (id : ChildId) (change : WidgetState → WidgetState) :
    (window (.editChild id (Widget.mapState change)) : DialogCall O).KeepsButtons := by
  intro slot other hOther e
  simp only [WindowCall.editsOf] at hOther
  split at hOther
  · rw [List.mem_singleton.mp hOther]
    cases e <;> rfl
  · cases hOther

end DialogCall

/-- Whatever became of a button is a button. -/
theorem Widget.Continues.isSome_button? {σ : Type} [Canvas σ] {edits : List (Element → Element)}
    {e e' : Element} (h : Widget.Continues σ edits e e')
    (hEdits : ∀ change ∈ edits, ∀ e : Element, (change e).button?.isSome = e.button?.isSome) :
    e'.button?.isSome = e.button?.isSome := by
  refine h.keeps (fun e => e.button?.isSome) (fun e => ?_) (fun {e _ _ _ _ _} hStep => ?_) hEdits
  · cases e <;> rfl
  · rw [(Element.sound e).next_of_ends hStep]
    cases e <;> rfl

namespace ModalDialog

variable {O σ : Type} [OutcomeLabel O] [Canvas σ] {d d' d'' : ModalDialog O} {s t : σ}

-- ---------------------------------------------------------------------------
-- Children and bindings that stay
-- ---------------------------------------------------------------------------

/-- The children of `d` are still in their slots in `d'`, where they were changed in the given ways
only, and the bindings are the same. -/
structure Kept (σ : Type) [Canvas σ] (edits : Nat → List (Element → Element))
    (d d' : ModalDialog O) : Prop where
  window : d.window.Carried σ edits d'.window
  bindings : d'.bindings = d.bindings

omit [OutcomeLabel O] in
theorem Kept.refl (edits : Nat → List (Element → Element)) (d : ModalDialog O) :
    d.Kept σ edits d :=
  ⟨.refl edits d.window, rfl⟩

omit [OutcomeLabel O] in
/-- What a dialog does to its buttons, one thing after the other. -/
theorem Kept.own_trans (h₁ : d.Kept σ (fun _ => ownEdits) d')
    (h₂ : d'.Kept σ (fun _ => ownEdits) d'') : d.Kept σ (fun _ => ownEdits) d'' where
  window := (h₁.window.trans h₂.window).mono fun _ _ hMem => (List.mem_append.mp hMem).elim id id
  bindings := h₂.bindings.trans h₁.bindings

omit [OutcomeLabel O] in
theorem kept_mapButton (d : ModalDialog O) (id : ChildId) {f : Button → Button}
    (hOwn : Element.mapButton f ∈ ownEdits) : d.Kept σ (fun _ => ownEdits) (d.mapButton id f) where
  window := by
    refine (d.window.carried_modifyChild id (.mapButton f)).mono fun slot change hMem => ?_
    split at hMem
    · rw [List.mem_singleton.mp hMem]
      exact hOwn
    · cases hMem
  bindings := rfl

omit [OutcomeLabel O] in
theorem kept_collected (d : ModalDialog O) : d.Kept σ (fun _ => ownEdits) d.collected := by
  unfold collected
  split
  · exact .refl _ d
  · rename_i id outcome _
    have hTaken : d.Kept σ (fun _ => ownEdits) (d.mapButton id fun b => b.takeClick.2) :=
      d.kept_mapButton id List.mem_cons_self
    exact ⟨hTaken.window, hTaken.bindings⟩

theorem kept_of_ends_step {origin : Point} {tick : Tick} (h : (d.step origin tick).Ends s d' t) :
    d.Kept σ (fun _ => ownEdits) d' := by
  cases hOutcome : d.outcome.isSome with
  | true =>
    obtain ⟨rfl, -⟩ := (ends_step_of_resolved hOutcome).mp h
    exact .refl _ d'
  | false =>
    obtain ⟨window, hWindow, rfl⟩ := (ends_step_of_unresolved hOutcome).mp h
    have hStepped : d.Kept σ (fun _ => ownEdits) { d with window } :=
      ⟨Window.carried_of_ends_step _ hWindow, rfl⟩
    exact hStepped.own_trans (kept_collected _)

omit [OutcomeLabel O] in
theorem kept_resetButtons (d : ModalDialog O) (ids : List ChildId) :
    d.Kept σ (fun _ => ownEdits) (d.resetButtons ids).1 := by
  induction ids generalizing d with
  | nil => exact .refl _ d
  | cons id rest ih =>
    have hReset : d.Kept σ (fun _ => ownEdits) (d.mapButton id fun b => b.reset.1) :=
      d.kept_mapButton id (List.mem_cons_of_mem _ List.mem_cons_self)
    exact hReset.own_trans (ih _)

omit [OutcomeLabel O] in
theorem kept_restart (d : ModalDialog O) : d.Kept σ (fun _ => ownEdits) d.restart.1 := by
  have hReset := kept_resetButtons (σ := σ) ({ d with outcome := none } : ModalDialog O)
    (d.bindings.map Prod.fst)
  have hMarked : (({ d with outcome := none } : ModalDialog O).resetButtons
      (d.bindings.map Prod.fst)).1.Kept σ (fun _ => ownEdits) d.restart.1 :=
    ⟨Window.carried_of_children _ rfl rfl, rfl⟩
  have hAll := hReset.own_trans hMarked
  exact ⟨hAll.window, hAll.bindings⟩

theorem kept_of_ends_pump {ticks : List Tick} {taken : Nat} {r : ExecResult O}
    (h : (d.pump taken ticks).Ends s (d', r) t) : d.Kept σ (fun _ => ownEdits) d' := by
  induction ticks generalizing taken d s with
  | nil =>
    obtain ⟨hEnd, -⟩ := Paint.ends_pure.mp h
    cases hEnd
    exact .refl _ _
  | cons tick rest ih =>
    obtain ⟨d₁, s₁, hStep, hRest⟩ := Paint.ends_bind.mp h
    have hStepped := kept_of_ends_step hStep
    cases hOutcome : d₁.outcome with
    | some outcome =>
      rw [hOutcome] at hRest
      obtain ⟨hEnd, -⟩ := Paint.ends_pure.mp hRest
      cases hEnd
      exact hStepped
    | none =>
      rw [hOutcome] at hRest
      exact hStepped.own_trans (ih hRest)

theorem kept_of_ends_exec {ticks : List Tick} {r : ExecResult O}
    (h : (d.exec ticks).Ends s (d', r) t) : d.Kept σ (fun _ => ownEdits) d' := by
  simp only [exec, Paint.ends_bind, Paint.ends_report] at h
  obtain ⟨_, _, rfl, _, _, rfl, hPump⟩ := h
  exact (kept_restart d).own_trans (kept_of_ends_pump hPump)

-- ---------------------------------------------------------------------------
-- Additions and bindings
-- ---------------------------------------------------------------------------

omit [OutcomeLabel O] in
theorem add_of_free (child : Element) (h : d.window.children.length < d.window.capacity) :
    d.add child = .ok (⟨d.window.children.length⟩,
      { d with window := { d.window with children := d.window.children ++ [child] } }) := by
  rw [add, tryAdd, Window.tryAdd_of_free child h]
  rfl

omit [OutcomeLabel O] in
theorem bind_of_button {id : ChildId} {b : Button} (hButton : d.button? id = some b)
    (hFree : d.bindings.length < d.window.capacity) (outcome : O) :
    d.bind id outcome = .ok { d with bindings := d.bindings ++ [(id, outcome)] } := by
  rw [bind, hButton, Option.isNone_some, if_neg Bool.false_ne_true, if_pos hFree]

/-- Adding a child to a dialog is adding it to its window. -/
def Adds (N : Nat) (d : ModalDialog O) (child : Element) (full reply : Reply) (d' : ModalDialog O) :
    Prop :=
  ∃ window, d.window.Adds N child full reply window ∧ d' = { d with window }

/-- What binding a button comes to in a dialog with room for `N`: if the slot has no button, or else
if there are `N` bindings already, it is refused and nothing changes. -/
def Binds (N : Nat) (d : ModalDialog O) (id : ChildId) (outcome : O) (reply : Reply)
    (d' : ModalDialog O) : Prop :=
  if d.button? id = none then reply = .refused (.unknownChild id.slot) ∧ d' = d
  else if d.bindings.length = N then reply = .refused (.capacityExceeded N) ∧ d' = d
  else reply = .done ∧ d' = { d with bindings := d.bindings ++ [(id, outcome)] }

omit [OutcomeLabel O] in
/-- A binding is refused, and nothing changes, or it is added to those before. -/
theorem Binds.cases {N : Nat} {id : ChildId} {outcome : O} {reply : Reply}
    (h : d.Binds N id outcome reply d') :
    reply.failed = true ∧ d' = d ∨
      reply = .done ∧ d.bindings.length ≠ N ∧ (∃ b, d.button? id = some b) ∧
        d' = { d with bindings := d.bindings ++ [(id, outcome)] } := by
  unfold Binds at h
  split at h
  · exact .inl ⟨by rw [h.1]; rfl, h.2⟩
  · rename_i hButton
    split at h
    · exact .inl ⟨by rw [h.1]; rfl, h.2⟩
    · rename_i hFree
      exact .inr ⟨h.1, hFree, Option.ne_none_iff_exists'.mp hButton, h.2⟩

omit [OutcomeLabel O] in
/-- Binding a button leaves the window alone. -/
theorem Binds.window {N : Nat} {id : ChildId} {outcome : O} {reply : Reply}
    (h : d.Binds N id outcome reply d') : d'.window = d.window := by
  rcases h.cases with ⟨-, rfl⟩ | ⟨-, -, -, rfl⟩
  · rfl
  · rfl

end ModalDialog

-- ---------------------------------------------------------------------------
-- Runs
-- ---------------------------------------------------------------------------

section Runs

variable {O σ : Type} [OutcomeLabel O] [Canvas σ] {N : Nat} {d d' : ModalDialog O} {s t : σ}
  {reply : Reply}

/-- Neither the children nor the bindings are more than there is room for, and every binding names a
button. -/
structure ModalDialog.Wired (N : Nat) (d : ModalDialog O) : Prop where
  capacity : d.window.capacity = N
  length_le : d.window.children.length ≤ N
  bindings_le : d.bindings.length ≤ N
  bound : ∀ binding ∈ d.bindings, ∃ b, d.button? binding.1 = some b

namespace DialogCall

/-- A call to the window of a dialog changes the window and nothing else. -/
theorem ends_perform_window {call : WindowCall Element} :
    ((window call : DialogCall O).perform d).Ends s (reply, d') t ↔
      ∃ w, (call.perform d.window).Ends s (reply, w) t ∧ d' = { d with window := w } := by
  constructor
  · intro h
    obtain ⟨⟨_, w⟩, _, hWindow, hReturn⟩ := Paint.ends_bind.mp h
    obtain ⟨hEnd, rfl⟩ := Paint.ends_pure.mp hReturn
    cases hEnd
    exact ⟨w, hWindow, rfl⟩
  · intro h
    obtain ⟨w, hWindow, rfl⟩ := h
    exact Paint.ends_bind.mpr ⟨(reply, w), t, hWindow, Paint.ends_pure.mpr ⟨rfl, rfl⟩⟩

/-- Adding a child to a dialog is adding it to its window. -/
theorem perform_tryAdd (d : ModalDialog O) (child : Element) :
    ((tryAdd child).perform d : Paint σ (Reply × ModalDialog O)) =
      (window (.tryAdd child)).perform d := by
  simp only [perform, WindowCall.perform, pure_bind, ModalDialog.tryAdd]
  cases d.window.tryAdd child <;> rfl

theorem perform_add (d : ModalDialog O) (child : Element) :
    ((add child).perform d : Paint σ (Reply × ModalDialog O)) =
      (window (.add child)).perform d := by
  simp only [perform, WindowCall.perform, pure_bind, ModalDialog.add, ModalDialog.tryAdd,
    Window.add]
  cases d.window.tryAdd child <;> rfl

theorem adds_of_ends_tryAdd (hWired : d.Wired N) {child : Element} {call : DialogCall O}
    (hCall : call = .tryAdd child ∨ call = .window (.tryAdd child))
    (h : (call.perform d).Ends s (reply, d') t) :
    d.Adds N child (.refused (.capacityExceeded N)) reply d' := by
  have hPerform : ((window (.tryAdd child) : DialogCall O).perform d).Ends s (reply, d') t := by
    rcases hCall with rfl | rfl
    · rwa [perform_tryAdd] at h
    · exact h
  obtain ⟨w, hWindow, rfl⟩ := ends_perform_window.mp hPerform
  exact ⟨w, WindowCall.adds_of_ends_tryAdd hWired.capacity hWired.length_le hWindow, rfl⟩

theorem adds_of_ends_add (hWired : d.Wired N) {child : Element} {call : DialogCall O}
    (hCall : call = .add child ∨ call = .window (.add child))
    (h : (call.perform d).Ends s (reply, d') t) :
    d.Adds N child (.faulted (.assembly (.capacityExceeded N))) reply d' := by
  have hPerform : ((window (.add child) : DialogCall O).perform d).Ends s (reply, d') t := by
    rcases hCall with rfl | rfl
    · rwa [perform_add] at h
    · exact h
  obtain ⟨w, hWindow, rfl⟩ := ends_perform_window.mp hPerform
  exact ⟨w, WindowCall.adds_of_ends_add hWired.capacity hWired.length_le hWindow, rfl⟩

theorem binds_of_ends_bind (hWired : d.Wired N) {id : ChildId} {outcome : O}
    (h : ((bind id outcome).perform d).Ends s (reply, d') t) : d.Binds N id outcome reply d' := by
  obtain ⟨hEnd, -⟩ := Paint.ends_pure.mp h
  unfold ModalDialog.Binds
  cases hButton : d.button? id with
  | none =>
    rw [ModalDialog.bind, hButton] at hEnd
    exact Prod.mk.inj hEnd
  | some b =>
    rw [if_neg (by simp)]
    split
    · rename_i hFull
      rw [ModalDialog.bind, hButton, hWired.capacity, Option.isNone_some,
        if_neg Bool.false_ne_true, hFull, if_neg (Nat.lt_irrefl N)] at hEnd
      exact Prod.mk.inj hEnd
    · rename_i hFree
      have hRoom : d.bindings.length < d.window.capacity := by
        rw [hWired.capacity]
        exact Nat.lt_of_le_of_ne hWired.bindings_le hFree
      rw [ModalDialog.bind_of_button hButton hRoom] at hEnd
      exact Prod.mk.inj hEnd

/-- What the answer of a call says: a child was added or refused, or a button was bound or refused,
or there was nothing to refuse. -/
theorem adds_or_binds_or_done (hWired : d.Wired N) {call : DialogCall O}
    (h : (call.perform d).Ends s (reply, d') t) :
    (∃ child full, call.child? = some child ∧ full.failed = true ∧ d.Adds N child full reply d') ∨
      (∃ id outcome, d.Binds N id outcome reply d') ∨
      reply = .done ∧ d.Kept σ (fun slot => call.editsOf slot) d' := by
  cases call with
  | tryAdd child =>
    exact .inl ⟨child, _, rfl, rfl, adds_of_ends_tryAdd hWired (.inl rfl) h⟩
  | add child => exact .inl ⟨child, _, rfl, rfl, adds_of_ends_add hWired (.inl rfl) h⟩
  | bind id outcome => exact .inr (.inl ⟨id, outcome, binds_of_ends_bind hWired h⟩)
  | step origin tick =>
    obtain ⟨d₁, _, hStep, hReturn⟩ := Paint.ends_bind.mp h
    obtain ⟨hEnd, rfl⟩ := Paint.ends_pure.mp hReturn
    cases hEnd
    exact .inr (.inr ⟨rfl, ModalDialog.kept_of_ends_step hStep⟩)
  | exec ticks =>
    obtain ⟨⟨d₁, _⟩, _, hExec, hReturn⟩ := Paint.ends_bind.mp h
    obtain ⟨hEnd, rfl⟩ := Paint.ends_pure.mp hReturn
    cases hEnd
    exact .inr (.inr ⟨rfl, ModalDialog.kept_of_ends_exec hExec⟩)
  | window call =>
    obtain ⟨w, hWindow, rfl⟩ := ends_perform_window.mp h
    have hLe : d.window.children.length ≤ d.window.capacity := by
      rw [hWired.capacity]
      exact hWired.length_le
    rcases WindowCall.adds_or_done hWired.capacity hWired.length_le hWindow with
      ⟨child, full, hChild, hFull, hAdds⟩ | hDone
    · exact .inl ⟨child, full, hChild, hFull, w, hAdds, rfl⟩
    · exact .inr (.inr ⟨hDone, WindowCall.carried_of_ends_perform hLe hWindow, rfl⟩)

/-- A name is the answer of a call that added a child, which is in the slot of that name. -/
theorem child?_of_added (hWired : d.Wired N) {call : DialogCall O} {id : ChildId}
    (h : (call.perform d).Ends s (.added id, d') t) :
    ∃ child, call.child? = some child ∧ d'.window.child? id = some child := by
  rcases adds_or_binds_or_done hWired h with ⟨child, full, hChild, hFull, window, hAdds, rfl⟩ |
    ⟨_, _, hBinds⟩ | ⟨hDone, -⟩
  · exact ⟨child, hChild, (hAdds.child?_of_added hFull).2⟩
  · rcases hBinds.cases with ⟨hFailed, -⟩ | ⟨hDone, -⟩
    · cases hFailed
    · cases hDone
  · cases hDone

/-- A call that fails changes nothing. -/
theorem eq_of_failed (hWired : d.Wired N) {call : DialogCall O}
    (h : (call.perform d).Ends s (reply, d') t) (hFailed : reply.failed = true) : d' = d := by
  rcases adds_or_binds_or_done hWired h with ⟨_, _, -, -, window, hAdds, rfl⟩ |
    ⟨_, _, hBinds⟩ | ⟨rfl, -⟩
  · rw [hAdds.eq_of_failed hFailed]
  · rcases hBinds.cases with ⟨-, hSame⟩ | ⟨rfl, -⟩
    · exact hSame
    · cases hFailed
  · cases hFailed

/-- **Every call** leaves all children in their slots, and changes them in the ways it says. -/
theorem carried_of_ends_perform (hWired : d.Wired N) {call : DialogCall O}
    (h : (call.perform d).Ends s (reply, d') t) :
    d.window.Carried σ (fun slot => call.editsOf slot) d'.window := by
  rcases adds_or_binds_or_done hWired h with ⟨_, _, -, -, window, hAdds, rfl⟩ |
    ⟨id, outcome, hBinds⟩ | ⟨-, hKept⟩
  · exact hAdds.carried hWired.capacity hWired.length_le _
  · rw [hBinds.window]
    exact .refl _ d.window
  · exact hKept.window

/-- A call that keeps buttons keeps them in their slots. -/
theorem exists_button_of_ends_perform (hWired : d.Wired N) {call : DialogCall O}
    (hButtons : call.KeepsButtons) (h : (call.perform d).Ends s (reply, d') t) {id : ChildId}
    {b : Button} (hButton : d.button? id = some b) : ∃ b', d'.button? id = some b' := by
  obtain ⟨e, hChild, hKind⟩ := Option.bind_eq_some_iff.mp hButton
  obtain ⟨e', hChild', hContinues⟩ := (carried_of_ends_perform hWired h).children id.slot e hChild
  refine Option.isSome_iff_exists.mp ?_
  have hSame := hContinues.isSome_button? fun _ hChange => hButtons.isSome_button? hChange
  rw [hKind, Option.isSome_some] at hSame
  rw [ModalDialog.button?, Window.child?, hChild']
  exact hSame

/-- **The invariant** is kept by every call. -/
theorem wired_of_ends_perform (hWired : d.Wired N) {call : DialogCall O}
    (hButtons : call.KeepsButtons) (h : (call.perform d).Ends s (reply, d') t) : d'.Wired N := by
  have hCarried := carried_of_ends_perform hWired h
  have hBound {binding : ChildId × O} (hBinding : binding ∈ d.bindings) :
      ∃ b', d'.button? binding.1 = some b' := by
    obtain ⟨b, hButton⟩ := hWired.bound binding hBinding
    exact exists_button_of_ends_perform hWired hButtons h hButton
  have hCapacity : d'.window.capacity = N := hCarried.capacity.trans hWired.capacity
  have hLe : d'.window.children.length ≤ N := by
    have hNext := hCarried.length_le
    rw [hWired.capacity] at hNext
    exact hNext hWired.length_le
  -- the bindings are the same, or there is one more
  have hSame (hBindings : d'.bindings = d.bindings) : d'.Wired N :=
    ⟨hCapacity, hLe, hBindings ▸ hWired.bindings_le, fun _ hMem => hBound (hBindings ▸ hMem)⟩
  rcases adds_or_binds_or_done hWired h with ⟨_, _, -, -, window, -, rfl⟩ |
    ⟨id, outcome, hBinds⟩ | ⟨-, hKept⟩
  · exact hSame rfl
  · rcases hBinds.cases with ⟨-, rfl⟩ | ⟨-, hFree, ⟨b, hButton⟩, hBound'⟩
    · exact hSame rfl
    · have hBindings : d'.bindings = d.bindings ++ [(id, outcome)] := by rw [hBound']
      refine ⟨hCapacity, hLe, ?_, fun binding hMem => ?_⟩
      · rw [hBindings, List.length_append, List.length_singleton]
        exact Nat.lt_of_le_of_ne hWired.bindings_le hFree
      · rw [hBindings] at hMem
        rcases List.mem_append.mp hMem with hOld | hNew
        · exact hBound hOld
        · rw [List.mem_singleton.mp hNew]
          exact exists_button_of_ends_perform hWired hButtons h hButton
  · exact hSame hKept.bindings

/-- **Every sequence of calls** keeps the invariant, and leaves all children in their slots. -/
theorem wired_of_ends_performAll (hWired : d.Wired N) {calls : List (DialogCall O)}
    (hButtons : ∀ call ∈ calls, call.KeepsButtons) (h : (performAll calls d).Ends s d' t) :
    d'.Wired N ∧ d.window.Carried σ (editsOfAll calls) d'.window := by
  induction calls generalizing d s with
  | nil =>
    obtain ⟨rfl, -⟩ := Paint.ends_pure.mp h
    exact ⟨hWired, .refl _ d'.window⟩
  | cons call rest ih =>
    obtain ⟨hFirst, hRest⟩ := List.forall_mem_cons.mp hButtons
    obtain ⟨⟨reply, d₁⟩, s₁, hCall, hCalls⟩ := Paint.ends_bind.mp h
    have hCarried := carried_of_ends_perform hWired hCall
    obtain ⟨hLast, hCarriedAll⟩ := ih (wired_of_ends_perform hWired hFirst hCall) hRest hCalls
    exact ⟨hLast, hCarried.trans hCarriedAll⟩

end DialogCall

/-- What can be said of a call in the middle of a run, which turns the dialog `d` into the dialog
`d'` with an answer and is followed by later calls that end with the dialog `last`. -/
structure ModalDialog.Assembled (σ : Type) [Canvas σ] (N : Nat) (d : ModalDialog O)
    (call : DialogCall O) (reply : Reply) (d' : ModalDialog O) (later : List (DialogCall O))
    (last : ModalDialog O) : Prop where
  /-- There are no more children than there is room for. -/
  length_le : d.window.children.length ≤ N
  /-- There are no more bindings than there is room for. -/
  bindings_le : d.bindings.length ≤ N
  /-- Every binding names a button. -/
  bound : ∀ binding ∈ d.bindings, ∃ b, d.button? binding.1 = some b
  /-- An addition is refused exactly if the window is full, and puts the child in the next slot
  otherwise. -/
  tryAdd : ∀ child, call = .tryAdd child ∨ call = .window (.tryAdd child) →
    d.Adds N child (.refused (.capacityExceeded N)) reply d'
  /-- An addition that must not fail does so in the same case. -/
  add : ∀ child, call = .add child ∨ call = .window (.add child) →
    d.Adds N child (.faulted (.assembly (.capacityExceeded N))) reply d'
  /-- A binding is refused exactly if the slot has no button or there is no room for it. -/
  bind : ∀ id outcome, call = .bind id outcome → d.Binds N id outcome reply d'
  /-- A name that was given remains the name of the child that was added. -/
  handle : ∀ id, reply = .added id → ∃ added child, call.child? = some added ∧
    last.window.child? id = some child ∧
      Widget.Continues σ (DialogCall.editsOfAll later id.slot) added child
  /-- A call that fails changes nothing. -/
  failed : reply.failed = true → d' = d

theorem ModalDialog.assembled_of_ends {rect : Rect} {style : Style}
    {earlier later : List (DialogCall O)} {call : DialogCall O} {last : ModalDialog O} {s₀ s₃ : σ}
    (hButtons : ∀ other ∈ earlier ++ call :: later, other.KeepsButtons)
    (hEarlier : (DialogCall.performAll earlier (.new rect style N)).Ends s₀ d s)
    (hCall : (call.perform d).Ends s (reply, d') t)
    (hLater : (DialogCall.performAll later d').Ends t last s₃) :
    d.Assembled σ N call reply d' later last := by
  obtain ⟨hBefore, hRest⟩ := List.forall_mem_append.mp hButtons
  obtain ⟨hNow, hAfter⟩ := List.forall_mem_cons.mp hRest
  have hNew : (ModalDialog.new rect style N : ModalDialog O).Wired N :=
    ⟨rfl, Nat.zero_le N, Nat.zero_le N, fun _ hMem => absurd hMem List.not_mem_nil⟩
  obtain ⟨hWired, -⟩ := DialogCall.wired_of_ends_performAll hNew hBefore hEarlier
  have hNext := DialogCall.wired_of_ends_perform hWired hNow hCall
  obtain ⟨-, hCarried⟩ := DialogCall.wired_of_ends_performAll hNext hAfter hLater
  refine ⟨hWired.length_le, hWired.bindings_le, hWired.bound, ?_, ?_, ?_, ?_,
    DialogCall.eq_of_failed hWired hCall⟩
  · exact fun child hChild => DialogCall.adds_of_ends_tryAdd hWired hChild hCall
  · exact fun child hChild => DialogCall.adds_of_ends_add hWired hChild hCall
  · rintro id outcome rfl
    exact DialogCall.binds_of_ends_bind hWired hCall
  · rintro id rfl
    obtain ⟨added, hAdded, hChild⟩ := DialogCall.child?_of_added hWired hCall
    obtain ⟨child, hLast, hContinues⟩ := hCarried.children id.slot added hChild
    exact ⟨added, child, hAdded, hLast, hContinues⟩

end Runs

/-- **Windows and dialogs are put together** as their calls say, whatever the calls are. In every
run on a new window or dialog with room for `N`,

* there are at most `N` children and at most `N` bindings, and every binding names a button;
* an addition fails exactly if there are `N` children, and puts the child in the next slot
  otherwise;
* a binding is refused because there is no button in the slot, or else because there are `N`
  bindings;
* a name that was given is for ever the name of what became of the child that was added;
* and a call that fails changes nothing.

Of the changes that are made to the children of a dialog it is asked that none puts something else
in the place of a button. -/
theorem assembled_runs (N : Nat) :
    (∀ {α σ : Type} [Widget α] [Canvas σ] {rect : Rect} {style : Style}
        {earlier later : List (WindowCall α)} {call : WindowCall α} {reply : Reply}
        {w w' last : Window α} {s₀ s₁ s₂ s₃ : σ},
      (WindowCall.performAll earlier (.new rect style N)).Ends s₀ w s₁ →
      (call.perform w).Ends s₁ (reply, w') s₂ →
      (WindowCall.performAll later w').Ends s₂ last s₃ →
        w.Assembled σ N call reply w' later last) ∧
    ∀ {O σ : Type} [OutcomeLabel O] [Canvas σ] {rect : Rect} {style : Style}
        {earlier later : List (DialogCall O)} {call : DialogCall O} {reply : Reply}
        {d d' last : ModalDialog O} {s₀ s₁ s₂ s₃ : σ},
      (∀ other ∈ earlier ++ call :: later, other.KeepsButtons) →
      (DialogCall.performAll earlier (.new rect style N)).Ends s₀ d s₁ →
      (call.perform d).Ends s₁ (reply, d') s₂ →
      (DialogCall.performAll later d').Ends s₂ last s₃ →
        d.Assembled σ N call reply d' later last := by
  constructor
  · intro α σ _ _ rect style earlier later call reply w w' last s₀ s₁ s₂ s₃ hEarlier hCall hLater
    exact Window.assembled_of_ends hEarlier hCall hLater
  · intro O σ _ _ rect style earlier later call reply d d' last s₀ s₁ s₂ s₃ hButtons hEarlier hCall
      hLater
    exact ModalDialog.assembled_of_ends hButtons hEarlier hCall hLater

/-- A run up to a call, the call and the rest of the run, with the answer of the call. -/
def answered {β σ : Type} (earlier : Paint σ β) (call : β → Paint σ (Reply × β))
    (later : β → Paint σ β) : Paint σ (Reply × β) := do
  let (reply, after) ← call (← earlier)
  return (reply, ← later after)

theorem exists_of_ends_answered {β σ : Type} {earlier : Paint σ β}
    {call : β → Paint σ (Reply × β)} {later : β → Paint σ β} {reply : Reply} {last : β} {s t : σ}
    (h : (answered earlier call later).Ends s (reply, last) t) :
    ∃ b b' s₁ s₂, earlier.Ends s b s₁ ∧ (call b).Ends s₁ (reply, b') s₂ ∧
      (later b').Ends s₂ last t := by
  obtain ⟨b, s₁, hEarlier, hRest⟩ := Paint.ends_bind.mp h
  obtain ⟨⟨_, b'⟩, s₂, hCall, hLast⟩ := Paint.ends_bind.mp hRest
  obtain ⟨_, _, hLater, hReturn⟩ := Paint.ends_bind.mp hLast
  obtain ⟨hPair, rfl⟩ := Paint.ends_pure.mp hReturn
  cases hPair
  exact ⟨b, b', s₁, s₂, hEarlier, hCall, hLater⟩

def saveLabel : Element := .label (.new ⟨10, 10, 60, 16⟩ "Save?" .standard)

def saveButton : Element := .button (.new ⟨10, 30, 40, 20⟩ "Save" .standard)

/-- A button is added and bound twice, after a slot without a button was refused. -/
def bindTwice : List (DialogCall UInt32) :=
  [.tryAdd saveButton, .bind ⟨5⟩ 1, .bind ⟨0⟩ 7, .bind ⟨0⟩ 8]

/-- A third binding is refused. Then the button is pressed and released, and what is in the other
slot is hidden. -/
def pressOnce : List (DialogCall UInt32) :=
  [.bind ⟨0⟩ 9, .step .zero ⟨10, some ⟨20, 40⟩⟩, .step .zero ⟨10, none⟩,
    .window (.editChild ⟨1⟩ (Widget.mapState fun state => state.setVisible false))]

/-- A window with room for one is asked for more, and a dialog with room for two is filled and then
resolved. -/
theorem assembled_runs_saveButton :
    (∃ w w' last t u v,
      (WindowCall.performAll [.tryAdd saveButton] (.new ⟨0, 0, 100, 60⟩ .standard 1)).Ends
        (⟨⟨320, 240⟩, ⟨8, 16⟩, []⟩ : Recorder) w t ∧
      ((WindowCall.add saveLabel).perform w).Ends t
        (.faulted (.assembly (.capacityExceeded 1)), w') u ∧
      (WindowCall.performAll [.step .zero ⟨10, none⟩] w').Ends u last v ∧
      w.Assembled Recorder 1 (.add saveLabel) (.faulted (.assembly (.capacityExceeded 1))) w'
        [.step .zero ⟨10, none⟩] last) ∧
    ∃ d d' last t u v,
      (∀ call ∈ bindTwice ++ .tryAdd saveLabel :: pressOnce, call.KeepsButtons) ∧
      (DialogCall.performAll bindTwice (.new ⟨0, 0, 100, 60⟩ .standard 2)).Ends
        (⟨⟨320, 240⟩, ⟨8, 16⟩, []⟩ : Recorder) d t ∧
      ((DialogCall.tryAdd saveLabel).perform d).Ends t (.added ⟨1⟩, d') u ∧
      (DialogCall.performAll pressOnce d').Ends u last v ∧
      last.bindings = [(⟨0⟩, 7), (⟨0⟩, 8)] ∧ last.outcome = some 7 ∧
      d.Assembled Recorder 2 (.tryAdd saveLabel) (.added ⟨1⟩) d' pressOnce last := by
  constructor
  · have hReply : ((answered (WindowCall.performAll [.tryAdd saveButton]
        (.new ⟨0, 0, 100, 60⟩ .standard 1)) (WindowCall.add saveLabel).perform
        (WindowCall.performAll [.step .zero ⟨10, none⟩])).run
        (⟨⟨320, 240⟩, ⟨8, 16⟩, []⟩ : Recorder)).value?.map Prod.fst =
          some (.faulted (.assembly (.capacityExceeded 1))) := by
      decide +kernel
    obtain ⟨⟨_, last⟩, v, hRun, rfl⟩ := Paint.exists_ends_of_value? hReply
    obtain ⟨w, w', t, u, hEarlier, hCall, hLater⟩ := exists_of_ends_answered hRun
    exact ⟨w, w', last, t, u, v, hEarlier, hCall, hLater,
      (assembled_runs 1).1 hEarlier hCall hLater⟩
  · have hButtons : ∀ call ∈ bindTwice ++ .tryAdd saveLabel :: pressOnce, call.KeepsButtons := by
      simp only [bindTwice, pressOnce, List.cons_append, List.nil_append, List.forall_mem_cons]
      exact ⟨trivial, trivial, trivial, trivial, trivial, trivial, trivial, trivial,
        DialogCall.keepsButtons_mapState _ _, fun _ hMem => absurd hMem List.not_mem_nil⟩
    have hReply : ((answered (DialogCall.performAll bindTwice
        (.new ⟨0, 0, 100, 60⟩ .standard 2)) (DialogCall.tryAdd saveLabel).perform
        (DialogCall.performAll pressOnce)).run
        (⟨⟨320, 240⟩, ⟨8, 16⟩, []⟩ : Recorder)).value?.map
          (fun (reply, last) => (reply, last.bindings, last.outcome)) =
        some (.added ⟨1⟩, [(⟨0⟩, 7), (⟨0⟩, 8)], some 7) := by
      decide +kernel
    obtain ⟨⟨reply, last⟩, v, hRun, hLast⟩ := Paint.exists_ends_of_value? hReply
    obtain ⟨rfl, hBindings, hOutcome⟩ : reply = .added ⟨1⟩ ∧
        last.bindings = [(⟨0⟩, 7), (⟨0⟩, 8)] ∧ last.outcome = some 7 := by
      simpa only [Prod.mk.injEq] using hLast
    obtain ⟨d, d', t, u, hEarlier, hCall, hLater⟩ := exists_of_ends_answered hRun
    exact ⟨d, d', last, t, u, v, hButtons, hEarlier, hCall, hLater, hBindings, hOutcome,
      (assembled_runs 2).2 hButtons hEarlier hCall hLater⟩

end TouchPanel
