import TouchPanel.Dialog.Modal

/-!
# Running a modal dialog

A dialog that runs has the panel for itself: it is started afresh and fed one tick after the
other until it is resolved. Input from before is dropped first, clicks that are latched and
presses in progress alike.

* `ModalDialog.restart` drops the input and the outcome.
* `ModalDialog.exec` runs the dialog.
-/

namespace TouchPanel

namespace ModalDialog

variable {O σ : Type}

/-- How a run over a list of ticks ended. -/
inductive ExecResult (O : Type) where
  /-- The dialog was resolved in the last of the ticks taken. -/
  | resolved (outcome : O) (ticks : Nat)
  /-- All ticks were taken and another one was asked for. -/
  | exhausted (ticks : Nat)
  deriving DecidableEq, Repr

/-- Drops all input of the buttons with the given names. -/
def resetButtons (d : ModalDialog O) : List ChildId → ModalDialog O × List Event
  | [] => (d, [])
  | id :: rest =>
      let events := (d.button? id).elim [] fun b => b.reset.2
      let (d, later) := (d.mapButton id fun b => b.reset.1).resetButtons rest
      (d, events ++ later)

/-- Forgets the outcome and the input of the bound buttons, and asks for a redraw. -/
def restart (d : ModalDialog O) : ModalDialog O × List Event :=
  let unresolved : ModalDialog O := { d with outcome := none }
  let (d, events) := unresolved.resetButtons (d.bindings.map Prod.fst)
  (d.mapState .markDirty, events)

/-- Feeds ticks to the dialog, after `taken` earlier ones, until it is resolved. -/
def pump [OutcomeLabel O] [Canvas σ] (taken : Nat) :
    List Tick → ModalDialog O → Paint σ (ModalDialog O × ExecResult O)
  | [], d => return (d, .exhausted taken)
  | tick :: rest, d => do
      let d ← d.step .zero tick
      match d.outcome with
      | some outcome => return (d, .resolved outcome (taken + 1))
      | none => pump (taken + 1) rest d

/-- Takes over the panel: starts the dialog afresh and feeds it ticks until it is resolved. -/
def exec [OutcomeLabel O] [Canvas σ] (ticks : List Tick) (d : ModalDialog O) :
    Paint σ (ModalDialog O × ExecResult O) := do
  Paint.report [.execStarted d.window.children.length]
  let (d, events) := d.restart
  Paint.report events
  d.pump 0 ticks

end ModalDialog

end TouchPanel
