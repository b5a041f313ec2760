/-!
# Faults and assembly errors

Two kinds of failure are kept apart.

* An `AssemblyError` is an answer: the caller asked for a slot or a binding that a window
  cannot give, and the window is left as it was.
* A `Fault` ends a computation: word arithmetic left its range, a byte lay outside its
  buffer, an assembly step that was not allowed to fail did, or an assertion did not hold.

`AssemblyError.message` and `Fault.message?` hold the wording of both.
-/

namespace TouchPanel

/-! ## Assembly errors -/

/-- Why a child or a binding was refused while a widget tree was put together. -/
inductive AssemblyError where
  /-- All slots of a window, or all bindings of a dialog, are taken. -/
  | capacityExceeded (capacity : Nat)
  /-- The slot holds no button. -/
  | unknownChild (slot : Nat)
  deriving DecidableEq, Repr

/-- The text shown for an assembly error. -/
def AssemblyError.message : AssemblyError → String
  | .capacityExceeded capacity => s!"window capacity of {capacity} children exceeded"
  | .unknownChild slot => s!"no child in slot {slot}"

/-! ## Faults -/

/-- The operations on words that have no result when the exact one is out of range. -/
inductive WordOp where
  | add
  | sub
  | mul
  deriving DecidableEq, Repr

/-- The verb that names a word operation. -/
def WordOp.verb : WordOp → String
  | .add => "add"
  | .sub => "subtract"
  | .mul => "multiply"

/-- Why a computation stopped before its end. -/
inductive Fault where
  /-- The exact result of a word operation is no word. -/
  | overflow (op : WordOp)
  /-- A byte outside its buffer was asked for. -/
  | outOfRange
  /-- An assembly step that has to succeed was refused. -/
  | assembly (error : AssemblyError)
  /-- A condition that is asserted does not hold. -/
  | assertion (condition : String)
  deriving DecidableEq, Repr

/-- The text of a fault; reading or writing out of range has none. -/
def Fault.message? : Fault → Option String
  | .overflow op => some s!"attempt to {op.verb} with overflow"
  | .outOfRange => none
  | .assembly error => some error.message
  | .assertion condition => some s!"assertion failed: {condition}"

end TouchPanel
