import TouchPanel.Proofs.Geometry

/-!
# Clipping as intersection

A rectangle is more than the set of its points: all that are empty have the same points, and so have
two whose right edges are held at the limit of the plane. Clipping never gives one of these
(`Exact`). So what it gives is told by its points, and the laws of intersection are laws of clipping.

* `Exact.eq_of_contains_iff`  — a rectangle that is exact is known by its points.
* `IsPart`                    — what is cut out of the plane, nothing if there is no point in it.
* `IsPart.clip`               — clipping once more is one more intersection.
* `clipTo?_exact`             — which rectangle clipping gives, and its laws.
-/

namespace TouchPanel.Rect

-- ---------------------------------------------------------------------------
-- Rectangles that are known by their points
-- ---------------------------------------------------------------------------

/-- The rectangle has points, and its right and bottom edges are as far from the others as its extent
says. Neither of them is held at the limit of the plane. -/
structure Exact (r : Rect) : Prop where
  nonempty : r.isEmpty = false
  right_eq : r.right.toNat = r.x.toNat + r.width.toNat
  bottom_eq : r.bottom.toNat = r.y.toNat + r.height.toNat

section Exact

variable {r r' : Rect}

theorem isEmpty_eq_false_iff : r.isEmpty = false ↔ 0 < r.width.toNat ∧ 0 < r.height.toNat := by
  have hPos (a : Word) : a ≠ 0 ↔ 0 < a.toNat := by
    rw [ne_eq, ← UInt64.toNat_inj, UInt64.toNat_zero]
    omega
  rw [isEmpty, Bool.or_eq_false_iff, beq_eq_false_iff_ne, beq_eq_false_iff_ne, hPos, hPos]

theorem exact_of_lt (hSize : 0 < r.width.toNat ∧ 0 < r.height.toNat)
    (hRight : r.x.toNat + r.width.toNat < 1 <<< 64)
    (hBottom : r.y.toNat + r.height.toNat < 1 <<< 64) : r.Exact where
  nonempty := isEmpty_eq_false_iff.mpr hSize
  right_eq := by
    rw [toNat_right]
    omega
  bottom_eq := by
    rw [toNat_bottom]
    omega

/-- The upper left corner is a point of the rectangle. -/
theorem Exact.contains_topLeft (h : r.Exact) : r.contains r.topLeft = true := by
  obtain ⟨hWidth, hHeight⟩ := isEmpty_eq_false_iff.mp h.nonempty
  rw [contains_iff, h.right_eq, h.bottom_eq]
  simp only [topLeft]
  omega

/-- The point before both the right and the bottom edge is one of the rectangle. -/
theorem Exact.exists_contains_last (h : r.Exact) :
    ∃ p, r.contains p = true ∧ p.x.toNat + 1 = r.right.toNat ∧ p.y.toNat + 1 = r.bottom.toNat := by
  obtain ⟨hWidth, hHeight⟩ := isEmpty_eq_false_iff.mp h.nonempty
  have hRight := h.right_eq
  have hBottom := h.bottom_eq
  have hOne : (1 : Word).toNat = 1 := rfl
  have hx : (r.right - 1).toNat = r.right.toNat - 1 := Word.toNat_sub_of_ge (by omega)
  have hy : (r.bottom - 1).toNat = r.bottom.toNat - 1 := Word.toNat_sub_of_ge (by omega)
  refine ⟨⟨r.right - 1, r.bottom - 1⟩, contains_iff.mpr ?_, ?_, ?_⟩
  · rw [hx, hy]
    omega
  · rw [hx]
    omega
  · rw [hy]
    omega

/-- The edges of a rectangle are not passed by those of one whose points it has. -/
theorem Exact.edges_le (h : r.Exact) (hPoints : ∀ p, r.contains p = true → r'.contains p = true) :
    r'.x.toNat ≤ r.x.toNat ∧ r'.y.toNat ≤ r.y.toNat ∧ r.right.toNat ≤ r'.right.toNat ∧
      r.bottom.toNat ≤ r'.bottom.toNat := by
  have hFirst := contains_iff.mp (hPoints _ h.contains_topLeft)
  obtain ⟨p, hContains, hx, hy⟩ := h.exists_contains_last
  have hLast := contains_iff.mp (hPoints p hContains)
  simp only [topLeft] at hFirst
  omega

/-- **Rectangles that are exact are the same if their points are.** -/
theorem Exact.eq_of_contains_iff (h : r.Exact) (h' : r'.Exact)
    (hPoints : ∀ p, r.contains p = true ↔ r'.contains p = true) : r = r' := by
  have hLe := h.edges_le fun p => (hPoints p).mp
  have hGe := h'.edges_le fun p => (hPoints p).mpr
  have hRight := h.right_eq
  have hRight' := h'.right_eq
  have hBottom := h.bottom_eq
  have hBottom' := h'.bottom_eq
  obtain ⟨x, y, width, height⟩ := r
  obtain ⟨x', y', width', height'⟩ := r'
  simp only [mk.injEq, ← UInt64.toNat_inj] at *
  omega

end Exact

-- ---------------------------------------------------------------------------
-- Parts of the plane
-- ---------------------------------------------------------------------------

/-- What is cut out of the plane: a rectangle of just the points with a property, or nothing when no
point has it. -/
structure IsPart (part : Option Rect) (points : Point → Prop) : Prop where
  exact_of_mem : ∀ r ∈ part, r.Exact
  points_iff : ∀ p, points p ↔ ∃ r ∈ part, r.contains p = true

section IsPart

variable {part part' : Option Rect} {points points' : Point → Prop}

theorem IsPart.congr (h : IsPart part points) (hSame : ∀ p, points p ↔ points' p) :
    IsPart part points' :=
  ⟨h.exact_of_mem, fun p => (hSame p).symm.trans (h.points_iff p)⟩

/-- There is one way only to cut out some points. -/
theorem IsPart.unique (h : IsPart part points) (h' : IsPart part' points) : part = part' := by
  have hPoints (p : Point) :
      (∃ r ∈ part, r.contains p = true) ↔ ∃ r ∈ part', r.contains p = true :=
    (h.points_iff p).symm.trans (h'.points_iff p)
  rcases part with - | r <;> rcases part' with - | r'
  · rfl
  · -- the upper left corner is a point of the second part and not of the first
    obtain ⟨_, hMem, -⟩ := (hPoints r'.topLeft).mpr
      ⟨r', rfl, (h'.exact_of_mem r' rfl).contains_topLeft⟩
    cases hMem
  · obtain ⟨_, hMem, -⟩ := (hPoints r.topLeft).mp
      ⟨r, rfl, (h.exact_of_mem r rfl).contains_topLeft⟩
    cases hMem
  · simp only [Option.mem_some_iff, exists_eq_left'] at hPoints
    rw [(h.exact_of_mem r rfl).eq_of_contains_iff (h'.exact_of_mem r' rfl) hPoints]

end IsPart

-- ---------------------------------------------------------------------------
-- Clipping
-- ---------------------------------------------------------------------------

section Clipping

variable {a b : Rect}

theorem exact_of_clipTo?_eq_some {clipped : Rect} (h : a.clipTo? b = some clipped) :
    clipped.Exact := by
  have hSides := clipTo?_eq_some h
  have hRight := a.right.toNat_lt
  have hBottom := a.bottom.toNat_lt
  have hOrder : max a.x.toNat b.x.toNat < min a.right.toNat b.right.toNat ∧
      max a.y.toNat b.y.toNat < min a.bottom.toNat b.bottom.toNat := by
    unfold clipTo? at h
    simp only at h
    split at h
    · rename_i hSome
      rwa [UInt64.lt_iff_toNat_lt, UInt64.lt_iff_toNat_lt, Word.toNat_max, Word.toNat_max,
        Word.toNat_min, Word.toNat_min] at hSome
    · cases h
  exact exact_of_lt (by omega) (by omega) (by omega)

/-- Clipping cuts out the points of both rectangles. -/
theorem isPart_clipTo? (a b : Rect) :
    IsPart (a.clipTo? b) fun p => a.contains p = true ∧ b.contains p = true where
  exact_of_mem _ hMem := exact_of_clipTo?_eq_some hMem
  points_iff p := by
    cases hClip : a.clipTo? b with
    | none =>
      refine iff_of_false (not_contains_of_clipTo?_eq_none hClip p) fun hNone => ?_
      obtain ⟨_, hMem, -⟩ := hNone
      cases hMem
    | some clipped =>
      simp only [Option.mem_some_iff, exists_eq_left']
      exact (contains_of_clipTo?_eq_some hClip p).symm

/-- Clipping what was cut out leaves those of its points that the bounds have too. -/
theorem IsPart.clip {part : Option Rect} {points : Point → Prop} (h : IsPart part points)
    (bounds : Rect) :
    IsPart (part.bind (·.clipTo? bounds)) fun p => points p ∧ bounds.contains p = true := by
  cases part with
  | none =>
    refine ⟨fun _ hMem => (nomatch hMem), fun p => iff_of_false (fun hBoth => ?_) fun hNone => ?_⟩
    · obtain ⟨_, hMem, -⟩ := (h.points_iff p).mp hBoth.1
      cases hMem
    · obtain ⟨_, hMem, -⟩ := hNone
      cases hMem
  | some r =>
    refine (isPart_clipTo? r bounds).congr fun p => ?_
    rw [h.points_iff]
    simp only [Option.mem_some_iff, exists_eq_left']

end Clipping

/-- **Clipping is intersection.** If there is something left of a rectangle within another one, it is
not empty, its edges are not held at the limit of the plane, and it has just the points of both; and
if there is nothing left, no point is in both. So the two can be exchanged, clipping twice to the same
bounds is clipping once, and it does not matter to which of two bounds one clips first. -/
theorem clipTo?_exact (a b : Rect) :
    (match a.clipTo? b with
      | some r =>
          (r.isEmpty = false ∧ r.right.toNat = r.x.toNat + r.width.toNat ∧
            r.bottom.toNat = r.y.toNat + r.height.toNat) ∧
          ∀ p, r.contains p = true ↔ a.contains p = true ∧ b.contains p = true
      | none => ∀ p, ¬(a.contains p = true ∧ b.contains p = true)) ∧
    a.clipTo? b = b.clipTo? a ∧
    (a.clipTo? b).bind (·.clipTo? b) = a.clipTo? b ∧
    ∀ c : Rect, (a.clipTo? b).bind (·.clipTo? c) = (a.clipTo? c).bind (·.clipTo? b) := by
  refine ⟨?_, ?_, ?_, fun c => ?_⟩
  · cases hClip : a.clipTo? b with
    | none => exact not_contains_of_clipTo?_eq_none hClip
    | some r =>
      obtain ⟨hNonempty, hRight, hBottom⟩ := exact_of_clipTo?_eq_some hClip
      exact ⟨⟨hNonempty, hRight, hBottom⟩, contains_of_clipTo?_eq_some hClip⟩
  · exact (isPart_clipTo? a b).unique ((isPart_clipTo? b a).congr fun p => and_comm)
  · refine ((isPart_clipTo? a b).clip b).unique ((isPart_clipTo? a b).congr fun p => ?_)
    rw [and_assoc, and_self]
  · refine ((isPart_clipTo? a b).clip c).unique (((isPart_clipTo? a c).clip b).congr fun p => ?_)
    exact and_right_comm

/-- At the limit of the plane only one column is left, and of it only what is in the bounds. -/
example : clipTo? ⟨.top - 1, 0, .top, 4⟩ ⟨4, 2, .top, .top⟩ = some ⟨.top - 1, 2, 1, 2⟩ := by decide

end TouchPanel.Rect
