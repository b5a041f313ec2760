import TouchPanel.Proofs.Step.Window

/-!
# Putting windows together

A window is put together child by child, and may be stepped, restyled and moved about meanwhile, and
its children changed in their places. It never has more children than it was made for, and a slot
once given away is not given away again: what is in it at any later time is the child that was put
there, after the steps it had and the changes that were made to it there.

* `WindowCall`              — what is done to a window while it is put together.
* `Widget.Continues`        — a widget is what became of another one.
* `Window.Carried`          — all children are still in their slots.
* `carried_of_ends_perform` — every call leaves them there.
* `Window.Assembled`        — what can be said of every call in a run, and of the handles it gives.
* `assembled_of_ends`       — so it is, for all runs.
-/

namespace TouchPanel

-- ---------------------------------------------------------------------------
-- Calls
-- ---------------------------------------------------------------------------

/-- The answer of a call. -/
inductive Reply where
  | done
  | added (id : ChildId)
  | refused (error : AssemblyError)
  | faulted (fault : Fault)
  deriving DecidableEq, Repr

/-- The call failed. -/
def Reply.failed : Reply → Bool
  | done => false
  | added _ => false
  | refused _ => true
  | faulted _ => true

/-- The answer of an addition that may be refused, and what there is afterwards: an addition that
fails leaves everything to its owner as it was. -/
def Reply.ofTryAdd {β : Type} (before : β) : Except AssemblyError (ChildId × β) → Reply × β
  | .ok (id, after) => (.added id, after)
  | .error error => (.refused error, before)

/-- The answer of an addition that must not fail, and what there is afterwards. -/
def Reply.ofAdd {β : Type} (before : β) : Except Fault (ChildId × β) → Reply × β
  | .ok (id, after) => (.added id, after)
  | .error fault => (.faulted fault, before)

/-- What is done to a window while it is put together. Children are changed each in its slot. -/
inductive WindowCall (α : Type) where
  | tryAdd (child : α)
  | add (child : α)
  | step (origin : Point) (tick : Tick)
  | setStyle (style : Style)
  | arrange (change : WidgetState → WidgetState)
  | editChild (id : ChildId) (change : α → α)
  | editChildren (change : Nat → α → α)

namespace WindowCall

variable {α σ : Type} [Widget α] [Canvas σ]

/-- Makes a call. -/
def perform (w : Window α) : WindowCall α → Paint σ (Reply × Window α)
  | tryAdd child => return Reply.ofTryAdd w (w.tryAdd child)
  | add child => return Reply.ofAdd w (w.add child)
  | step origin tick => return (.done, ← w.step origin tick)
  | setStyle style => return (.done, w.setStyle style)
  | arrange change => return (.done, Widget.mapState change w)
  | editChild id change => return (.done, w.modifyChild id change)
  | editChildren change => return (.done, { w with children := w.children.mapIdx change })

/-- Makes one call after the other, whatever they answer. -/
def performAll : List (WindowCall α) → Window α → Paint σ (Window α)
  | [], w => return w
  | call :: rest, w => do performAll rest (← call.perform w).2

/-- The changes that a call makes to the child in a slot. -/
def editsOf (slot : Nat) : WindowCall α → List (α → α)
  | editChild id change => if id.slot = slot then [change] else []
  | editChildren change => [change slot]
  | _ => []

/-- The child that a call adds, if it adds one. -/
def child? : WindowCall α → Option α
  | tryAdd child => some child
  | add child => some child
  | _ => none

end WindowCall

-- ---------------------------------------------------------------------------
-- Children that stay
-- ---------------------------------------------------------------------------

section Continues

variable {α σ : Type} [Widget α] [Canvas σ]

/-- The widget is what became of the widget `a`: it was made dirty, stepped and changed, and changed
in the given ways only. -/
inductive Widget.Continues (σ : Type) [Canvas σ] (edits : List (α → α)) (a : α) : α → Prop
  | same : Continues σ edits a a
  | marked {b : α} : Continues σ edits a b → Continues σ edits a (Widget.markDirty b)
  | stepped {b c : α} {origin : Point} {tick : Tick} {s t : σ} : Continues σ edits a b →
      (Widget.step origin tick b).Ends s c t → Continues σ edits a c
  | edited {b : α} {change : α → α} : change ∈ edits → Continues σ edits a b →
      Continues σ edits a (change b)

theorem Widget.Continues.mono {edits more : List (α → α)} {a b : α} (h : Continues σ edits a b)
    (hMore : ∀ change ∈ edits, change ∈ more) : Continues σ more a b := by
  induction h with
  | same => exact .same
  | marked _ ih => exact .marked ih
  | stepped _ hStep ih => exact .stepped ih hStep
  | edited hMem _ ih => exact .edited (hMore _ hMem) ih

theorem Widget.Continues.trans {first second : List (α → α)} {a b c : α}
    (hab : Continues σ first a b) (hbc : Continues σ second b c) :
    Continues σ (first ++ second) a c := by
  induction hbc with
  | same => exact hab.mono fun _ hMem => List.mem_append_left _ hMem
  | marked _ ih => exact .marked ih
  | stepped _ hStep ih => exact .stepped ih hStep
  | edited hMem _ ih => exact .edited (List.mem_append_right _ hMem) ih

/-- Whatever steps and changes keep of a widget is the same for all that became of it. -/
theorem Widget.Continues.keeps {ι : Type} {edits : List (α → α)} {a b : α}
    (h : Continues σ edits a b) (identity : α → ι)
    (hMark : ∀ a, identity (Widget.markDirty a) = identity a)
    (hStep : ∀ {a b : α} {origin : Point} {tick : Tick} {s t : σ},
      (Widget.step origin tick a).Ends s b t → identity b = identity a)
    (hEdits : ∀ change ∈ edits, ∀ a, identity (change a) = identity a) :
    identity b = identity a := by
  induction h with
  | same => rfl
  | marked _ ih => exact (hMark _).trans ih
  | stepped _ hEnds ih => exact (hStep hEnds).trans ih
  | edited hMem _ ih => exact (hEdits _ hMem _).trans ih

end Continues

namespace Window

section Carried

variable {α σ : Type} [Widget α] [Canvas σ] {w w' w'' : Window α} {s t : σ}

/-- The children of `w` are still in their slots in `w'`, where they were changed in the given ways
only. Other children may have been added, as far as there was room. -/
structure Carried (σ : Type) [Canvas σ] (edits : Nat → List (α → α)) (w w' : Window α) : Prop where
  capacity : w'.capacity = w.capacity
  length_le : w.children.length ≤ w.capacity → w'.children.length ≤ w.capacity
  children : ∀ (slot : Nat) (child : α), w.children[slot]? = some child →
    ∃ child', w'.children[slot]? = some child' ∧ Widget.Continues σ (edits slot) child child'

theorem Carried.refl (edits : Nat → List (α → α)) (w : Window α) : w.Carried σ edits w :=
  ⟨rfl, id, fun _ child hChild => ⟨child, hChild, .same⟩⟩

theorem Carried.trans {first second : Nat → List (α → α)} (h₁ : w.Carried σ first w')
    (h₂ : w'.Carried σ second w'') : w.Carried σ (fun slot => first slot ++ second slot) w'' where
  capacity := h₂.capacity.trans h₁.capacity
  length_le := by
    intro hLe
    have hNext := h₂.length_le
    rw [h₁.capacity] at hNext
    exact hNext (h₁.length_le hLe)
  children := by
    intro slot child hChild
    obtain ⟨child', hChild', hFirst⟩ := h₁.children slot child hChild
    obtain ⟨child'', hChild'', hSecond⟩ := h₂.children slot child' hChild'
    exact ⟨child'', hChild'', hFirst.trans hSecond⟩

theorem Carried.mono {edits more : Nat → List (α → α)} (h : w.Carried σ edits w')
    (hMore : ∀ slot, ∀ change ∈ edits slot, change ∈ more slot) : w.Carried σ more w' where
  capacity := h.capacity
  length_le := h.length_le
  children := by
    intro slot child hChild
    obtain ⟨child', hChild', hContinues⟩ := h.children slot child hChild
    exact ⟨child', hChild', hContinues.mono (hMore slot)⟩

/-- A change of all children, each in its slot. -/
theorem carried_of_getElem? {edits : Nat → List (α → α)} (hCapacity : w'.capacity = w.capacity)
    {change : Nat → α → α} (hLength : w'.children.length = w.children.length)
    (hChildren : ∀ slot, w'.children[slot]? = (w.children[slot]?).map (change slot))
    (hEdits : ∀ slot child, Widget.Continues σ (edits slot) child (change slot child)) :
    w.Carried σ edits w' where
  capacity := hCapacity
  length_le := by
    intro hLe
    rw [hLength]
    exact hLe
  children := by
    intro slot child hChild
    refine ⟨change slot child, ?_, hEdits slot child⟩
    rw [hChildren, hChild]
    rfl

/-- The state of the window itself has no part in it. -/
theorem carried_of_children (edits : Nat → List (α → α)) (hCapacity : w'.capacity = w.capacity)
    (hChildren : w'.children = w.children) : w.Carried σ edits w' :=
  ⟨hCapacity, fun hLe => hChildren ▸ hLe, fun _ child hChild => ⟨child, hChildren ▸ hChild, .same⟩⟩

theorem carried_modifyChild (w : Window α) (id : ChildId) (change : α → α) :
    w.Carried σ (fun slot => if id.slot = slot then [change] else []) (w.modifyChild id change) := by
  refine carried_of_getElem? rfl (List.length_modify ..) (fun slot => List.getElem?_modify ..) ?_
  intro slot child
  split
  · exact .edited (List.mem_singleton_self change) .same
  · exact .same

/-- A child that was added is in the slot after the last one. -/
theorem carried_append (edits : Nat → List (α → α)) (child : α)
    (hFree : w.children.length < w.capacity) :
    w.Carried σ edits { w with children := w.children ++ [child] } where
  capacity := rfl
  length_le := by
    intro _
    rw [List.length_append, List.length_singleton]
    exact hFree
  children := by
    intro slot other hOther
    refine ⟨other, ?_, .same⟩
    have hSlot := (List.getElem?_eq_some_iff.mp hOther).1
    rw [← hOther]
    exact List.getElem?_append_left hSlot

/-- A step leaves every child in its slot, stepped or not. -/
theorem carried_of_ends_step {origin : Point} {tick : Tick} (edits : Nat → List (α → α))
    (h : (w.step origin tick).Ends s w' t) : w.Carried σ edits w' := by
  obtain ⟨u, children, -, hChildren, hWindow⟩ := ends_step_window.mp h
  refine ⟨by rw [hWindow], fun hLe => ?_, fun slot child hChild => ?_⟩
  · rw [hWindow]
    show children.length ≤ w.capacity
    rw [length_of_ends_stepChildren hChildren, length_marked]
    exact hLe
  · -- the child may have been made dirty before its turn
    obtain ⟨marked, hMarked, hContinues⟩ : ∃ marked, w.marked[slot]? = some marked ∧
        Widget.Continues σ (edits slot) child marked := by
      rw [Window.marked]
      split
      · rw [List.getElem?_map, hChild]
        exact ⟨_, rfl, .marked .same⟩
      · exact ⟨child, hChild, .same⟩
    obtain ⟨child', hChild', hTurn⟩ := exists_turn_of_ends_step h hMarked
    refine ⟨child', hChild', ?_⟩
    split at hTurn
    · obtain ⟨v, v', hStep⟩ := hTurn
      exact .stepped hContinues hStep
    · rw [hTurn]
      exact hContinues

end Carried

-- ---------------------------------------------------------------------------
-- Additions
-- ---------------------------------------------------------------------------

/-- What adding a child comes to in a window with room for `N`: if the window is full, the answer is
`full` and nothing changes, and otherwise the child is put in the slot after the last one, which is
the answer. -/
def Adds {α : Type} (N : Nat) (w : Window α) (child : α) (full reply : Reply) (w' : Window α) :
    Prop :=
  if w.children.length = N then reply = full ∧ w' = w
  else reply = .added ⟨w.children.length⟩ ∧ w' = { w with children := w.children ++ [child] }

section TryAdd

variable {α : Type} {w : Window α}

theorem tryAdd_of_full (child : α) (h : w.children.length = w.capacity) :
    w.tryAdd child = .error (.capacityExceeded w.capacity) := by
  rw [tryAdd, if_neg (Nat.not_lt.mpr (Nat.le_of_eq h.symm))]

theorem tryAdd_of_free (child : α) (h : w.children.length < w.capacity) :
    w.tryAdd child =
      .ok (⟨w.children.length⟩, { w with children := w.children ++ [child] }) := by
  rw [tryAdd, if_pos h]

theorem adds_tryAdd {N : Nat} (hCapacity : w.capacity = N) (hLe : w.children.length ≤ N)
    (child : α) :
    w.Adds N child (.refused (.capacityExceeded N)) (Reply.ofTryAdd w (w.tryAdd child)).1
      (Reply.ofTryAdd w (w.tryAdd child)).2 := by
  subst hCapacity
  unfold Adds
  split
  · rename_i hFull
    rw [tryAdd_of_full child hFull]
    exact ⟨rfl, rfl⟩
  · rename_i hNotFull
    rw [tryAdd_of_free child (Nat.lt_of_le_of_ne hLe hNotFull)]
    exact ⟨rfl, rfl⟩

theorem adds_add {N : Nat} (hCapacity : w.capacity = N) (hLe : w.children.length ≤ N) (child : α) :
    w.Adds N child (.faulted (.assembly (.capacityExceeded N))) (Reply.ofAdd w (w.add child)).1
      (Reply.ofAdd w (w.add child)).2 := by
  subst hCapacity
  unfold Adds
  split
  · rename_i hFull
    rw [add, tryAdd_of_full child hFull]
    exact ⟨rfl, rfl⟩
  · rename_i hNotFull
    rw [add, tryAdd_of_free child (Nat.lt_of_le_of_ne hLe hNotFull)]
    exact ⟨rfl, rfl⟩

section Adds

variable {N : Nat} {w' : Window α} {child : α} {full reply : Reply}

theorem Adds.carried {σ : Type} [Widget α] [Canvas σ] (h : w.Adds N child full reply w')
    (hCapacity : w.capacity = N) (hLe : w.children.length ≤ N) (edits : Nat → List (α → α)) :
    w.Carried σ edits w' := by
  subst hCapacity
  unfold Adds at h
  split at h
  · rw [h.2]
    exact .refl edits w
  · rename_i hNotFull
    rw [h.2]
    exact carried_append edits child (Nat.lt_of_le_of_ne hLe hNotFull)

/-- A name is given for the child that is added, which is in the slot of that name. -/
theorem Adds.child?_of_added {id : ChildId} (h : w.Adds N child full (.added id) w')
    (hFull : full.failed = true) : id = ⟨w.children.length⟩ ∧ w'.child? id = some child := by
  unfold Adds at h
  split at h
  · rw [← h.1] at hFull
    cases hFull
  · obtain ⟨hId, rfl⟩ := h
    cases hId
    exact ⟨rfl, List.getElem?_concat_length⟩

/-- A failure changes nothing. -/
theorem Adds.eq_of_failed (h : w.Adds N child full reply w') (hFailed : reply.failed = true) :
    w' = w := by
  unfold Adds at h
  split at h
  · exact h.2
  · rw [h.1] at hFailed
    cases hFailed

end Adds

end TryAdd

end Window

-- ---------------------------------------------------------------------------
-- Runs
-- ---------------------------------------------------------------------------

section Runs

variable {α σ : Type} [Widget α] [Canvas σ] {N : Nat} {w w' : Window α} {s t : σ} {reply : Reply}

namespace WindowCall

theorem adds_of_ends_tryAdd (hCapacity : w.capacity = N) (hLe : w.children.length ≤ N) {child : α}
    (h : ((tryAdd child).perform w).Ends s (reply, w') t) :
    w.Adds N child (.refused (.capacityExceeded N)) reply w' := by
  obtain ⟨hEnd, -⟩ := Paint.ends_pure.mp h
  have hAdds := Window.adds_tryAdd hCapacity hLe child
  rwa [← hEnd] at hAdds

theorem adds_of_ends_add (hCapacity : w.capacity = N) (hLe : w.children.length ≤ N) {child : α}
    (h : ((add child).perform w).Ends s (reply, w') t) :
    w.Adds N child (.faulted (.assembly (.capacityExceeded N))) reply w' := by
  obtain ⟨hEnd, -⟩ := Paint.ends_pure.mp h
  have hAdds := Window.adds_add hCapacity hLe child
  rwa [← hEnd] at hAdds

/-- A call that is no addition has nothing to refuse. -/
theorem adds_or_done (hCapacity : w.capacity = N) (hLe : w.children.length ≤ N)
    {call : WindowCall α} (h : (call.perform w).Ends s (reply, w') t) :
    (∃ child full, call.child? = some child ∧ full.failed = true ∧ w.Adds N child full reply w') ∨
      reply = .done := by
  cases call with
  | tryAdd child => exact .inl ⟨child, _, rfl, rfl, adds_of_ends_tryAdd hCapacity hLe h⟩
  | add child => exact .inl ⟨child, _, rfl, rfl, adds_of_ends_add hCapacity hLe h⟩
  | step origin tick =>
    obtain ⟨w₁, _, -, hReturn⟩ := Paint.ends_bind.mp h
    exact .inr (Prod.mk.inj (Paint.ends_pure.mp hReturn).1).1
  | setStyle style => exact .inr (Prod.mk.inj (Paint.ends_pure.mp h).1).1
  | arrange change => exact .inr (Prod.mk.inj (Paint.ends_pure.mp h).1).1
  | editChild id change => exact .inr (Prod.mk.inj (Paint.ends_pure.mp h).1).1
  | editChildren change => exact .inr (Prod.mk.inj (Paint.ends_pure.mp h).1).1

/-- A name is the answer of a call that added a child, which is in the slot of that name. -/
theorem child?_of_added (hCapacity : w.capacity = N) (hLe : w.children.length ≤ N)
    {call : WindowCall α} {id : ChildId} (h : (call.perform w).Ends s (.added id, w') t) :
    ∃ child, call.child? = some child ∧ w'.child? id = some child := by
  rcases adds_or_done hCapacity hLe h with ⟨child, full, hChild, hFull, hAdds⟩ | hDone
  · exact ⟨child, hChild, (hAdds.child?_of_added hFull).2⟩
  · cases hDone

/-- A call that fails changes nothing. -/
theorem eq_of_failed (hCapacity : w.capacity = N) (hLe : w.children.length ≤ N)
    {call : WindowCall α} (h : (call.perform w).Ends s (reply, w') t)
    (hFailed : reply.failed = true) : w' = w := by
  rcases adds_or_done hCapacity hLe h with ⟨_, _, -, -, hAdds⟩ | rfl
  · exact hAdds.eq_of_failed hFailed
  · cases hFailed

/-- **Every call** leaves all children in their slots, and changes them in the ways it says. -/
theorem carried_of_ends_perform {call : WindowCall α} (hLe : w.children.length ≤ w.capacity)
    (h : (call.perform w).Ends s (reply, w') t) : w.Carried σ (fun slot => call.editsOf slot) w' := by
  cases call with
  | tryAdd child => exact (adds_of_ends_tryAdd rfl hLe h).carried rfl hLe _
  | add child => exact (adds_of_ends_add rfl hLe h).carried rfl hLe _
  | step origin tick =>
    obtain ⟨w₁, _, hStep, hReturn⟩ := Paint.ends_bind.mp h
    obtain ⟨hEnd, rfl⟩ := Paint.ends_pure.mp hReturn
    cases hEnd
    exact Window.carried_of_ends_step _ hStep
  | setStyle style =>
    obtain ⟨hEnd, -⟩ := Paint.ends_pure.mp h
    cases hEnd
    exact Window.carried_of_children _ rfl rfl
  | arrange change =>
    obtain ⟨hEnd, -⟩ := Paint.ends_pure.mp h
    cases hEnd
    exact Window.carried_of_children _ rfl rfl
  | editChild id change =>
    obtain ⟨hEnd, -⟩ := Paint.ends_pure.mp h
    cases hEnd
    exact w.carried_modifyChild id change
  | editChildren change =>
    obtain ⟨hEnd, -⟩ := Paint.ends_pure.mp h
    cases hEnd
    refine Window.carried_of_getElem? rfl List.length_mapIdx (fun slot => List.getElem?_mapIdx) ?_
    intro slot child
    exact .edited (List.mem_singleton_self _) .same

/-- The changes that calls make to the child in a slot. -/
def editsOfAll (calls : List (WindowCall α)) (slot : Nat) : List (α → α) :=
  calls.flatMap (editsOf slot)

/-- **Every sequence of calls** does so. -/
theorem carried_of_ends_performAll {calls : List (WindowCall α)}
    (hLe : w.children.length ≤ w.capacity) (h : (performAll calls w).Ends s w' t) :
    w.Carried σ (editsOfAll calls) w' := by
  induction calls generalizing w s with
  | nil =>
    obtain ⟨rfl, -⟩ := Paint.ends_pure.mp h
    exact .refl _ w'
  | cons call rest ih =>
    obtain ⟨⟨reply, w₁⟩, s₁, hFirst, hRest⟩ := Paint.ends_bind.mp h
    have hCarried := carried_of_ends_perform hLe hFirst
    have hNext : w₁.children.length ≤ w₁.capacity := by
      rw [hCarried.capacity]
      exact hCarried.length_le hLe
    exact hCarried.trans (ih hNext hRest)

end WindowCall

/-- What can be said of a call in the middle of a run, which turns the window `w` into the window
`w'` with an answer and is followed by later calls that end with the window `last`. -/
structure Window.Assembled (σ : Type) [Canvas σ] (N : Nat) (w : Window α) (call : WindowCall α)
    (reply : Reply) (w' : Window α) (later : List (WindowCall α)) (last : Window α) : Prop where
  /-- There are no more children than there is room for. -/
  length_le : w.children.length ≤ N
  /-- An addition is refused exactly if the window is full, and puts the child in the next slot
  otherwise. -/
  tryAdd : ∀ child, call = .tryAdd child →
    w.Adds N child (.refused (.capacityExceeded N)) reply w'
  /-- An addition that must not fail does so in the same case. -/
  add : ∀ child, call = .add child →
    w.Adds N child (.faulted (.assembly (.capacityExceeded N))) reply w'
  /-- A name that was given remains the name of the child that was added. -/
  handle : ∀ id, reply = .added id → ∃ added child, call.child? = some added ∧
    last.child? id = some child ∧
      Widget.Continues σ (WindowCall.editsOfAll later id.slot) added child
  /-- A call that fails changes nothing. -/
  failed : reply.failed = true → w' = w

/-- **A window is put together** as its calls say. -/
theorem Window.assembled_of_ends {rect : Rect} {style : Style} {earlier later : List (WindowCall α)}
    {call : WindowCall α} {last : Window α} {s₀ s₃ : σ}
    (hEarlier : (WindowCall.performAll earlier (.new rect style N)).Ends s₀ w s)
    (hCall : (call.perform w).Ends s (reply, w') t)
    (hLater : (WindowCall.performAll later w').Ends t last s₃) :
    w.Assembled σ N call reply w' later last := by
  have hStart : (Window.new rect style N).Carried σ (WindowCall.editsOfAll earlier) w :=
    WindowCall.carried_of_ends_performAll (Nat.zero_le N) hEarlier
  have hCapacity : w.capacity = N := hStart.capacity
  have hLe : w.children.length ≤ N := hStart.length_le (Nat.zero_le N)
  have hCarried := WindowCall.carried_of_ends_perform (hCapacity ▸ hLe) hCall
  have hRest : w'.Carried σ (WindowCall.editsOfAll later) last := by
    refine WindowCall.carried_of_ends_performAll ?_ hLater
    rw [hCarried.capacity]
    exact hCarried.length_le (hCapacity ▸ hLe)
  refine ⟨hLe, ?_, ?_, ?_, WindowCall.eq_of_failed hCapacity hLe hCall⟩
  · rintro child rfl
    exact WindowCall.adds_of_ends_tryAdd hCapacity hLe hCall
  · rintro child rfl
    exact WindowCall.adds_of_ends_add hCapacity hLe hCall
  · rintro id rfl
    obtain ⟨added, hAdded, hChild⟩ := WindowCall.child?_of_added hCapacity hLe hCall
    obtain ⟨child, hLast, hContinues⟩ := hRest.children id.slot added hChild
    exact ⟨added, child, hAdded, hLast, hContinues⟩

end Runs

end TouchPanel
