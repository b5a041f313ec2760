import TouchPanel.Proofs.Geometry

/-!
# Cutting off margins

A margin moves the upper left corner of a rectangle and takes twice its own size from the extent. Each
of these steps is held at a limit: the corner at the largest word, the doubled margin there too, and
the extent at zero. Nothing of this is seen in the points that are left, as long as the rectangle
itself ends inside the plane. And it is not seen either when margins are cut off one after the other,
wherever the rectangle is: the corner only moves on and the extent only shrinks, so that what is held
at a limit stays there.

* `contains_inset_iff_of_lt` — the points that are left, for a rectangle that ends inside the plane.
* `inset_inset`              — two margins are one.
* `inset_exact`              — both, with the sum of the margins in exact arithmetic.
-/

namespace TouchPanel.Rect

-- ---------------------------------------------------------------------------
-- The points that are left
-- ---------------------------------------------------------------------------

section Points

variable {r : Rect} {p : Point} {n : Nat}

/-- A point that is far from the edges is one of the rectangle, unless the edges are held at the
limit of the plane. -/
theorem FarFromEdges.contains (h : r.FarFromEdges n p)
    (hRight : r.x.toNat + r.width.toNat < 1 <<< 64)
    (hBottom : r.y.toNat + r.height.toNat < 1 <<< 64) : r.contains p = true := by
  obtain ⟨hLeftOf, hRightOf, hAbove, hBelow⟩ := h
  rw [contains_iff, toNat_right, toNat_bottom]
  omega

theorem contains_inset_iff_of_lt {amount : Word} (hRight : r.x.toNat + r.width.toNat < 1 <<< 64)
    (hBottom : r.y.toNat + r.height.toNat < 1 <<< 64) :
    (r.inset amount).contains p = true ↔ r.FarFromEdges amount.toNat p := by
  rw [contains_inset_iff_far]
  exact and_iff_right_of_imp fun hFar => hFar.contains hRight hBottom

end Points

-- ---------------------------------------------------------------------------
-- Margins that are cut off one after the other
-- ---------------------------------------------------------------------------

/-- What two margins on both sides leave of an extent, one after the other or at once. -/
theorem subSat_double_subSat_double (extent a b : Word) :
    (extent.subSat (a.mulSat 2)).subSat (b.mulSat 2) = extent.subSat ((a.addSat b).mulSat 2) := by
  have hLe := extent.toNat_le_top
  rw [← UInt64.toNat_inj, toNat_extent_inset, toNat_extent_inset, toNat_extent_inset,
    Word.toNat_addSat]
  -- margins whose sum is no word leave nothing, and the largest word leaves nothing either
  omega

/-- Two margins are one, which is held at the largest word. -/
theorem inset_inset (r : Rect) (a b : Word) : (r.inset a).inset b = r.inset (a.addSat b) := by
  rw [inset, inset, inset, mk.injEq]
  exact ⟨Word.addSat_assoc _ _ _, Word.addSat_assoc _ _ _, subSat_double_subSat_double _ _ _,
    subSat_double_subSat_double _ _ _⟩

/-- **Cutting off a margin is exact.** What is left of a rectangle are the points of it that are at
least as far from each of the four edges as the margin is wide, in exact arithmetic. If the rectangle
ends inside the plane, the distances alone tell which points these are, however wide the margin is.
And of every rectangle two margins, one after the other, leave what one margin of their sum leaves, or
of the largest word if the sum is none. -/
theorem inset_exact (r : Rect) :
    (∀ (n : Word) (p : Point), (r.inset n).contains p = true ↔
      r.contains p = true ∧ r.FarFromEdges n.toNat p) ∧
    (r.x.toNat + r.width.toNat < 1 <<< 64 → r.y.toNat + r.height.toNat < 1 <<< 64 →
      ∀ (n : Word) (p : Point), (r.inset n).contains p = true ↔ r.FarFromEdges n.toNat p) ∧
    ∀ a b : Word, (r.inset a).inset b =
      r.inset (UInt64.ofNat (min ((1 <<< 64) - 1) (a.toNat + b.toNat))) := by
  refine ⟨fun _ _ => contains_inset_iff_far,
    fun hRight hBottom _ _ => contains_inset_iff_of_lt hRight hBottom, fun a b => ?_⟩
  have hSum : a.addSat b = UInt64.ofNat (min ((1 <<< 64) - 1) (a.toNat + b.toNat)) := by
    rw [← Word.toNat_addSat, UInt64.ofNat_toNat]
  rw [inset_inset, hSum]

/-- A rectangle that ends where the plane does, and has fewer rows than columns. -/
def lastColumns : Rect := ⟨Word.top - 10, 3, 10, 4⟩

theorem inset_exact_lastColumns :
    lastColumns.x.toNat + lastColumns.width.toNat < 1 <<< 64 ∧
    lastColumns.y.toNat + lastColumns.height.toNat < 1 <<< 64 ∧
    (lastColumns.inset 1).contains ⟨Word.top - 2, 5⟩ = true ∧
    (lastColumns.inset 1).contains ⟨Word.top - 1, 5⟩ = false ∧
    (lastColumns.inset (Word.top - 5)).inset 7 = lastColumns.inset .top := by
  have hRight : lastColumns.x.toNat + lastColumns.width.toNat < 1 <<< 64 := by decide
  have hBottom : lastColumns.y.toNat + lastColumns.height.toNat < 1 <<< 64 := by decide
  obtain ⟨-, hPoints, hTwice⟩ := inset_exact lastColumns
  have hInside : lastColumns.FarFromEdges 1 ⟨Word.top - 2, 5⟩ := by constructor <;> decide
  refine ⟨hRight, hBottom, (hPoints hRight hBottom 1 _).mpr hInside, ?_, hTwice (Word.top - 5) 7⟩
  -- the last column is less than one column away from the right edge
  rw [← Bool.not_eq_true, hPoints hRight hBottom]
  exact fun hFar => absurd hFar.right (by decide)

/-- The rows are gone, and of the columns four are left. -/
example : lastColumns.inset 3 = ⟨Word.top - 7, 6, 4, 0⟩ := by decide

end TouchPanel.Rect
