import Mathlib.Algebra.GroupWithZero.Nat
import Mathlib.Data.List.Nodup
import TouchPanel.Tree

/-!
# Paths in widget trees

What a step does to an inner node depends on the nodes above it, its *owners*: on the sum of
their positions, on whether one of them is dirty, and on whether all of them are stepped at all.

* `Node.paths`  — the paths to all nodes, in the order of `Node.preorder` (`map_at?_paths`).
* `Node.owners` — the nodes above the end of a path.
* `Node.corner` — the place to which a chain of nodes moves an origin.
* `Node.Active` — a step of the tree gets to the node.
-/

namespace TouchPanel

namespace Node

variable {O : Type}

-- ---------------------------------------------------------------------------
-- All paths
-- ---------------------------------------------------------------------------

mutual

/-- The paths to all nodes of a tree, an owner before its children and these in the order of
their slots. -/
def paths : Node O → List (List Nat)
  | window w => [] :: pathsAll 0 w.children
  | dialog d => [] :: (List.range d.window.children.length).map fun slot => [slot]
  | element _ => [[]]
  | probe _ => [[]]

/-- The paths to all nodes of several trees, which have the slots from `slot` on. -/
def pathsAll (slot : Nat) : List (Node O) → List (List Nat)
  | [] => []
  | child :: rest => (paths child).map (slot :: ·) ++ pathsAll (slot + 1) rest

end

/-- The paths through several trees, gathered slot by slot. -/
theorem flatMap_pathsAll {β : Type} {f : List Nat → List β} {g : Node O → List β} {slot : Nat}
    {nodes : List (Node O)}
    (h : ∀ i child, nodes[i]? = some child →
      child.paths.flatMap (fun path => f ((slot + i) :: path)) = g child) :
    (pathsAll slot nodes).flatMap f = nodes.flatMap g := by
  induction nodes generalizing slot with
  | nil => rfl
  | cons child rest ih =>
    rw [pathsAll, List.flatMap_append, List.flatMap_map, List.flatMap_cons]
    congr 1
    · exact h 0 child rfl
    · refine ih fun i c hc => ?_
      rw [Nat.add_right_comm, Nat.add_assoc]
      exact h (i + 1) c hc

theorem pathsAll_elements (slot : Nat) (elements : List Element) :
    pathsAll slot (elements.map element : List (Node O)) =
      (List.range' slot elements.length).map fun slot => [slot] := by
  induction elements generalizing slot with
  | nil => rfl
  | cons e rest ih =>
    rw [List.map_cons, pathsAll, ih, List.length_cons, List.range'_succ]
    rfl

/-- The paths of a tree are that to its root and those through its children. -/
theorem paths_eq (n : Node O) : n.paths = [] :: pathsAll 0 n.children := by
  cases n with
  | window w => rw [paths, children]
  | dialog d => rw [paths, children, pathsAll_elements, List.range_eq_range']
  | element e => rw [paths, children, pathsAll]
  | probe p => rw [paths, children, pathsAll]

theorem flatMap_preorderAll {nodes : List (Node O)} :
    preorderAll nodes = nodes.flatMap preorder := by
  induction nodes with
  | nil => rfl
  | cons child rest ih => rw [preorderAll, ih, List.flatMap_cons]

theorem preorder_eq (n : Node O) : n.preorder = n :: n.children.flatMap preorder := by
  cases n with
  | window w => rw [preorder, children, flatMap_preorderAll]
  | dialog d =>
    rw [preorder, children, List.flatMap_map]
    congr 1
    exact List.map_eq_flatMap
  | element e => rw [preorder, children, List.flatMap_nil]
  | probe p => rw [preorder, children, List.flatMap_nil]

/-- Induction on trees that does not ask what kind of node the children belong to. -/
@[elab_as_elim]
theorem induct_children {motive : Node O → Prop}
    (h : ∀ n, (∀ child ∈ n.children, motive child) → motive n) (n : Node O) : motive n := by
  have hElement (e : Element) : motive (element e) :=
    h _ fun child hChild => absurd hChild List.not_mem_nil
  induction n using induct with
  | element e => exact hElement e
  | window w ih => exact h _ ih
  | dialog d =>
    refine h _ fun child hChild => ?_
    obtain ⟨e, -, rfl⟩ := List.mem_map.mp hChild
    exact hElement e
  | probe p => exact h _ fun child hChild => absurd hChild List.not_mem_nil

/-- The nodes at the paths of a tree, in order, are its nodes in preorder. -/
theorem map_at?_paths (n : Node O) : n.paths.map n.at? = n.preorder.map some := by
  induction n using induct_children with
  | h n ih =>
    rw [paths_eq, preorder_eq, List.map_cons, List.map_cons, List.map_eq_flatMap, List.map_flatMap,
      at?]
    congr 1
    refine flatMap_pathsAll fun slot child hSlot => ?_
    simp only [Nat.zero_add, at?, hSlot, Option.bind_some]
    rw [← ih child (List.mem_of_getElem? hSlot), List.map_eq_flatMap]

/-- A path goes on from the node at its end. -/
theorem at?_concat {n node : Node O} {path : List Nat} (slot : Nat)
    (hNode : n.at? path = some node) : n.at? (path ++ [slot]) = node.children[slot]? := by
  induction path generalizing n with
  | nil =>
    rw [at?, Option.some.injEq] at hNode
    rw [List.nil_append, at?, hNode]
    cases node.children[slot]? <;> rfl
  | cons first path ih =>
    obtain ⟨child, hChild, hRest⟩ := Option.bind_eq_some_iff.mp hNode
    rw [List.cons_append, at?, hChild, Option.bind_some, ih hRest]

theorem exists_slot_of_mem_pathsAll {slot : Nat} {nodes : List (Node O)} {path : List Nat}
    (h : path ∈ pathsAll slot nodes) : ∃ i rest, path = i :: rest ∧ slot ≤ i := by
  induction nodes generalizing slot with
  | nil => cases h
  | cons child rest ih =>
    rcases List.mem_append.mp h with hFirst | hRest
    · obtain ⟨inner, -, rfl⟩ := List.mem_map.mp hFirst
      exact ⟨slot, inner, rfl, Nat.le_refl slot⟩
    · obtain ⟨i, inner, rfl, hLe⟩ := ih hRest
      exact ⟨i, inner, rfl, Nat.le_of_succ_le hLe⟩

theorem nodup_pathsAll {nodes : List (Node O)} (slot : Nat)
    (h : ∀ child ∈ nodes, child.paths.Nodup) : (pathsAll slot nodes).Nodup := by
  induction nodes generalizing slot with
  | nil => exact List.nodup_nil
  | cons child rest ih =>
    obtain ⟨hChild, hRest⟩ := List.forall_mem_cons.mp h
    refine List.nodup_append.mpr ⟨hChild.map (List.cons_injective), ih (slot + 1) hRest, ?_⟩
    -- the paths through the rest begin with later slots
    intro path hPath other hOther hSame
    obtain ⟨inner, -, rfl⟩ := List.mem_map.mp hPath
    obtain ⟨i, inner', rfl, hLe⟩ := exists_slot_of_mem_pathsAll hOther
    cases hSame
    omega

/-- No two paths of a tree are the same. -/
theorem nodup_paths (n : Node O) : n.paths.Nodup := by
  induction n using induct_children with
  | h n ih =>
    rw [paths_eq]
    refine List.nodup_cons.mpr ⟨fun hMem => ?_, nodup_pathsAll 0 ih⟩
    obtain ⟨i, inner, hPath, -⟩ := exists_slot_of_mem_pathsAll hMem
    cases hPath

-- ---------------------------------------------------------------------------
-- Owners
-- ---------------------------------------------------------------------------

/-- The nodes above the end of a path, from the root down. -/
def owners (n : Node O) : List Nat → List (Node O)
  | [] => []
  | slot :: path => n :: (n.children[slot]?).elim [] fun child => child.owners path

/-- The place to which a chain of nodes moves an origin, held at the limit of the plane. -/
def corner (origin : Point) (chain : List (Node O)) : Point where
  x := .ofNat (min ((1 <<< 64) - 1)
    (origin.x.toNat + (chain.map fun n => n.state.position.x.toNat).sum))
  y := .ofNat (min ((1 <<< 64) - 1)
    (origin.y.toNat + (chain.map fun n => n.state.position.y.toNat).sum))

theorem corner_nil (origin : Point) : corner origin ([] : List (Node O)) = origin := by
  have hHeld (a : Word) : UInt64.ofNat (min ((1 <<< 64) - 1) (a.toNat + 0)) = a := by
    have hLt := a.toNat_lt
    rw [Nat.min_eq_right (by omega), Nat.add_zero, UInt64.ofNat_toNat]
  exact congrArg₂ Point.mk (hHeld origin.x) (hHeld origin.y)

/-- Holding a sum at the limit on the way makes no difference. -/
theorem ofNat_min_addSat (a p : Word) (rest : Nat) :
    UInt64.ofNat (min ((1 <<< 64) - 1) (a.toNat + (p.toNat + rest))) =
      .ofNat (min ((1 <<< 64) - 1) ((p.addSat a).toNat + rest)) := by
  rw [Word.toNat_addSat]
  congr 1
  omega

theorem corner_cons (origin : Point) (n : Node O) (rest : List (Node O)) :
    corner origin (n :: rest) = corner (n.state.globalPosition origin) rest :=
  congrArg₂ Point.mk (ofNat_min_addSat _ _ _) (ofNat_min_addSat _ _ _)

theorem corner_concat (origin : Point) (chain : List (Node O)) (n : Node O) :
    corner origin (chain ++ [n]) = n.state.globalPosition (corner origin chain) := by
  induction chain generalizing origin with
  | nil => rw [List.nil_append, corner_cons, corner_nil, corner_nil]
  | cons first rest ih => rw [List.cons_append, corner_cons, corner_cons, ih]

-- ---------------------------------------------------------------------------
-- Active nodes
-- ---------------------------------------------------------------------------

/-- Whether the node is a dialog that is resolved. -/
def finished : Node O → Bool
  | dialog d => d.outcome.isSome
  | _ => false

/-- A step of the tree `n` gets to the node at the end of a path: the node is no finished dialog,
and it is the root or a visible child of a node that the step gets to. -/
inductive Active (n : Node O) : List Nat → Node O → Prop where
  | root : n.finished = false → Active n [] n
  | child {path : List Nat} {slot : Nat} {owner node : Node O} :
      Active n path owner → owner.children[slot]? = some node → node.state.visible = true →
        node.finished = false → Active n (path ++ [slot]) node

theorem Active.unfinished {n node : Node O} {path : List Nat} (h : n.Active path node) :
    node.finished = false := by
  cases h with
  | root hUnfinished => exact hUnfinished
  | child _ _ _ hUnfinished => exact hUnfinished

theorem active_nil_iff {n node : Node O} :
    n.Active [] node ↔ node = n ∧ n.finished = false := by
  refine ⟨fun h => ?_, fun h => ?_⟩
  · generalize hPath : ([] : List Nat) = path at h
    cases h with
    | root hUnfinished => exact ⟨rfl, hUnfinished⟩
    | child => simp at hPath
  · obtain ⟨rfl, hUnfinished⟩ := h
    exact .root hUnfinished

/-- The other way to follow a path: from the child down. -/
theorem active_cons_iff {n node : Node O} {slot : Nat} {path : List Nat} :
    n.Active (slot :: path) node ↔ n.finished = false ∧ ∃ child,
      n.children[slot]? = some child ∧ child.state.visible = true ∧ child.Active path node := by
  refine ⟨fun h => ?_, fun h => ?_⟩
  · generalize hPath : slot :: path = whole at h
    induction h generalizing path with
    | root => cases hPath
    | @child front last owner node hOwner hNode hVisible hUnfinished ih =>
      cases front with
      | nil =>
        -- the path has one slot, so the owner is the root
        obtain ⟨rfl, rfl⟩ := List.cons_eq_cons.mp hPath
        obtain ⟨rfl, hRoot⟩ := active_nil_iff.mp hOwner
        exact ⟨hRoot, node, hNode, hVisible, .root hUnfinished⟩
      | cons first front =>
        obtain ⟨rfl, rfl⟩ := List.cons_eq_cons.mp hPath
        obtain ⟨hRoot, child, hChild, hChildVisible, hActive⟩ := ih rfl
        exact ⟨hRoot, child, hChild, hChildVisible, hActive.child hNode hVisible hUnfinished⟩
  · obtain ⟨hRoot, child, hChild, hVisible, hActive⟩ := h
    induction hActive with
    | root hUnfinished =>
      have hOwner : n.Active [] n := .root hRoot
      exact hOwner.child hChild hVisible hUnfinished
    | @child front last owner node hOwner hNode hNodeVisible hUnfinished ih =>
      exact ih.child hNode hNodeVisible hUnfinished

end Node

end TouchPanel
