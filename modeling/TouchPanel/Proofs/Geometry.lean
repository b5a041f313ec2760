import TouchPanel.Geometry

/-!
# Rectangles as sets of points

* `contains_of_clipTo?_eq_some`, `not_contains_of_clipTo?_eq_none` — clipping is intersection.
* `contains_translate_iff`, `contains_inset_iff` — what moving a rectangle past the limit of the plane
  leaves of it: its points beyond the limit are lost, and no others.
* `contains_inset_iff_far` — a margin that is cut off takes just the points that are near an edge.
-/

namespace TouchPanel.Rect

/-- The sides of a clipped rectangle, in numbers. -/
theorem clipTo?_eq_some {r bounds clipped : Rect} (h : r.clipTo? bounds = some clipped) :
    clipped.x.toNat = max r.x.toNat bounds.x.toNat ∧
      clipped.y.toNat = max r.y.toNat bounds.y.toNat ∧
      clipped.x.toNat + clipped.width.toNat = min r.right.toNat bounds.right.toNat ∧
      clipped.y.toNat + clipped.height.toNat = min r.bottom.toNat bounds.bottom.toNat := by
  unfold clipTo? at h
  simp only at h
  split at h
  · rename_i hSome
    cases h
    rw [UInt64.lt_iff_toNat_lt, UInt64.lt_iff_toNat_lt, Word.toNat_max, Word.toNat_max,
      Word.toNat_min, Word.toNat_min] at hSome
    rw [Word.toNat_sub_of_ge, Word.toNat_sub_of_ge, Word.toNat_max, Word.toNat_max, Word.toNat_min,
      Word.toNat_min]
    · omega
    · rw [Word.toNat_max, Word.toNat_min]
      omega
    · rw [Word.toNat_max, Word.toNat_min]
      omega
  · cases h

theorem contains_of_clipTo?_eq_some {r bounds clipped : Rect}
    (h : r.clipTo? bounds = some clipped) (p : Point) :
    clipped.contains p = true ↔ r.contains p = true ∧ bounds.contains p = true := by
  obtain ⟨hx, hy, hRight, hBottom⟩ := clipTo?_eq_some h
  have hr := r.right.toNat_lt
  have hb := r.bottom.toNat_lt
  simp only [contains_iff, toNat_right clipped, toNat_bottom clipped]
  omega

theorem not_contains_of_clipTo?_eq_none {r bounds : Rect} (h : r.clipTo? bounds = none)
    (p : Point) : ¬(r.contains p = true ∧ bounds.contains p = true) := by
  unfold clipTo? at h
  simp only at h
  split at h
  · cases h
  · rename_i hNone
    rw [UInt64.lt_iff_toNat_lt, UInt64.lt_iff_toNat_lt, Word.toNat_max, Word.toNat_max,
      Word.toNat_min, Word.toNat_min] at hNone
    simp only [contains_iff]
    omega

-- ---------------------------------------------------------------------------
-- Rectangles held at the limit
-- ---------------------------------------------------------------------------

/-- The point lies in so many columns and rows from a corner on, and before the limit of the plane.
All numbers are exact. -/
structure Covers (x y width height : Nat) (p : Point) : Prop where
  left : x ≤ p.x.toNat
  right : p.x.toNat < x + width
  above : y ≤ p.y.toNat
  below : p.y.toNat < y + height
  column : p.x.toNat < Word.top.toNat
  row : p.y.toNat < Word.top.toNat

/-- A rectangle whose corner is held at the limit has the points that it would have without one, as
far as they are before the limit. -/
theorem contains_iff_covers {r : Rect} {x y : Nat} {p : Point}
    (hx : r.x.toNat = min Word.top.toNat x) (hy : r.y.toNat = min Word.top.toNat y) :
    r.contains p = true ↔ Covers x y r.width.toNat r.height.toNat p := by
  rw [contains_iff, toNat_right, toNat_bottom, hx, hy, ← Word.toNat_top]
  constructor
  · intro hContains
    constructor <;> omega
  · intro hCovers
    obtain ⟨hLeft, hRight, hAbove, hBelow, hColumn, hRow⟩ := hCovers
    omega

/-- The points of a rectangle that is moved. -/
theorem contains_translate_iff {r : Rect} {delta p : Point} :
    (r.translate delta).contains p = true ↔
      Covers (r.x.toNat + delta.x.toNat) (r.y.toNat + delta.y.toNat) r.width.toNat
        r.height.toNat p :=
  contains_iff_covers (Word.toNat_addSat _ _) (Word.toNat_addSat _ _)

/-- What a margin on both sides leaves of an extent. Where twice the margin is held at the largest
word, nothing is left anyway. -/
theorem toNat_extent_inset (extent amount : Word) :
    (extent.subSat (amount.mulSat 2)).toNat = extent.toNat - 2 * amount.toNat := by
  have hLe := extent.toNat_le_top
  have hTwo : (2 : Word).toNat = 2 := rfl
  rw [Word.toNat_subSat, Word.toNat_mulSat, hTwo]
  omega

/-- The points of a rectangle without a margin on every side. -/
theorem contains_inset_iff {r : Rect} {amount : Word} {p : Point} :
    (r.inset amount).contains p = true ↔
      Covers (r.x.toNat + amount.toNat) (r.y.toNat + amount.toNat)
        (r.width.toNat - 2 * amount.toNat) (r.height.toNat - 2 * amount.toNat) p := by
  rw [contains_iff_covers (Word.toNat_addSat _ _) (Word.toNat_addSat _ _), inset]
  simp only [toNat_extent_inset]

/-- A point is at least so many columns and rows away from the edges, measured in exact
arithmetic. -/
structure FarFromEdges (r : Rect) (n : Nat) (p : Point) : Prop where
  left : r.x.toNat + n ≤ p.x.toNat
  right : p.x.toNat + n < r.x.toNat + r.width.toNat
  above : r.y.toNat + n ≤ p.y.toNat
  below : p.y.toNat + n < r.y.toNat + r.height.toNat

/-- Without the margin the points that are far from the edges are left, also where the right or the
bottom edge is held at the limit. -/
theorem contains_inset_iff_far {r : Rect} {amount : Word} {p : Point} :
    (r.inset amount).contains p = true ↔
      r.contains p = true ∧ r.FarFromEdges amount.toNat p := by
  have hTop := Word.toNat_top
  rw [contains_inset_iff, contains_iff, toNat_right, toNat_bottom]
  constructor
  · rintro ⟨hLeft, hRight, hAbove, hBelow, hColumn, hRow⟩
    exact ⟨by omega, by omega, by omega, by omega, by omega⟩
  · rintro ⟨hContains, hLeft, hRight, hAbove, hBelow⟩
    constructor <;> omega

end TouchPanel.Rect
