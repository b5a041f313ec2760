import TouchPanel.Proofs.Display.PixelMap

/-!
# The pixels of a border

A border is painted in four strips, which cover the corners twice. Together they cover the points of
the rectangle that are lost when the border is cut off, whatever the sides: if one of these is shorter
than two borders, nothing is left of the rectangle, and the strips meet. The right and the lower strip
are measured from edges that may be held at the limit of the plane. They are then in the wrong place,
but far outside of every picture.

* `contains_strip_iff` — where a strip is, in exact arithmetic.
* `exists_strip_iff`   — the strips cover the border.
* `colours_border`     — so it is the border that is coloured.
* `drawFrame_border`   — and in display memory its bytes are painted, and no others.
-/

namespace TouchPanel

-- ---------------------------------------------------------------------------
-- The points of a border
-- ---------------------------------------------------------------------------

namespace Rect

/-- A point of the rectangle that is cut off with a border of the thickness. -/
def OnBorder (r : Rect) (thickness : Word) (p : Point) : Prop :=
  r.contains p = true ∧ (r.inset thickness).contains p = false

instance (r : Rect) (thickness : Word) : DecidablePred (r.OnBorder thickness) :=
  fun _ => inferInstanceAs (Decidable (_ ∧ _))

/-- A point is nearer to an edge than so many columns or rows, measured in exact arithmetic. -/
def NearEdge (r : Rect) (t : Nat) (p : Point) : Prop :=
  (p.y.toNat < r.y.toNat + t ∨ r.y.toNat + r.height.toNat ≤ p.y.toNat + t) ∨
    p.x.toNat < r.x.toNat + t ∨ r.x.toNat + r.width.toNat ≤ p.x.toNat + t

theorem not_nearEdge_iff {r : Rect} {t : Nat} {p : Point} :
    ¬r.NearEdge t p ↔ r.FarFromEdges t p := by
  rw [NearEdge]
  constructor
  · intro hAway
    constructor <;> omega
  · rintro ⟨hLeft, hRight, hAbove, hBelow⟩
    omega

/-- A border is made of the points near an edge. -/
theorem onBorder_iff {r : Rect} {thickness : Word} {p : Point} :
    r.OnBorder thickness p ↔ r.contains p = true ∧ r.NearEdge thickness.toNat p := by
  refine and_congr_right fun hContains => ?_
  rw [← Bool.not_eq_true, contains_inset_iff_far, ← not_nearEdge_iff, not_and, Classical.not_not]
  exact imp_iff_right hContains

/-- A border that is half as thick as the rectangle, or thicker, is all of it. -/
theorem nearEdge_of_half_le {r : Rect} {t : Nat} (hHalf : min r.width.toNat r.height.toNat ≤ 2 * t)
    (p : Point) : r.NearEdge t p := by
  rw [NearEdge]
  omega

end Rect

-- ---------------------------------------------------------------------------
-- The strips
-- ---------------------------------------------------------------------------

namespace Framebuffer

variable {rect : Rect} {thickness t : Word} {p : Point}

/-- The strips that a border is painted in. -/
def strips (rect : Rect) (t : Word) : List Rect :=
  [⟨rect.x, rect.y, rect.width, t⟩, ⟨rect.x, rect.bottom - t, rect.width, t⟩,
    ⟨rect.x, rect.y, t, rect.height⟩, ⟨rect.right - t, rect.y, t, rect.height⟩]

/-- The last columns or rows before an edge, as they are counted from the edge. It does not matter
that the edge may be held at the limit of the plane, for the coordinate is far from there. -/
theorem stop_sub_le_iff {start extent stop t v : Nat} (hNear : v * 3 < 1 <<< 64)
    (hExtent : extent < 1 <<< 64) (hStop : stop = min ((1 <<< 64) - 1) (start + extent))
    (ht : t ≤ (extent + 1) / 2) : stop - t ≤ v ↔ start + extent ≤ v + t := by
  omega

/-- The strips cover the points near an edge, if they are at most half as thick as the
rectangle. -/
theorem exists_strip_iff (hx : p.x.toNat * 3 < 1 <<< 64) (hy : p.y.toNat * 3 < 1 <<< 64)
    (hWidth : t.toNat ≤ (rect.width.toNat + 1) / 2)
    (hHeight : t.toNat ≤ (rect.height.toNat + 1) / 2) :
    (∃ strip ∈ strips rect t, strip.contains p = true) ↔
      rect.contains p = true ∧ rect.NearEdge t.toNat p := by
  have hRight := rect.toNat_right
  have hBottom := rect.toNat_bottom
  have hWidthLt : rect.width.toNat < 1 <<< 64 := rect.width.toNat_lt
  have hHeightLt : rect.height.toNat < 1 <<< 64 := rect.height.toNat_lt
  have hFar : (rect.right - t).toNat = rect.right.toNat - t.toNat :=
    Word.toNat_sub_of_ge (by omega)
  have hLow : (rect.bottom - t).toNat = rect.bottom.toNat - t.toNat :=
    Word.toNat_sub_of_ge (by omega)
  have hColumns := stop_sub_le_iff hx hWidthLt hRight hWidth
  have hRows := stop_sub_le_iff hy hHeightLt hBottom hHeight
  have hStrip (x y width height : Word) : Rect.contains ⟨x, y, width, height⟩ p = true ↔
      x.toNat ≤ p.x.toNat ∧ p.x.toNat < min ((1 <<< 64) - 1) (x.toNat + width.toNat) ∧
        y.toNat ≤ p.y.toNat ∧ p.y.toNat < min ((1 <<< 64) - 1) (y.toNat + height.toNat) := by
    rw [Rect.contains_iff, Rect.toNat_right, Rect.toNat_bottom]
  have hUpper : Rect.contains ⟨rect.x, rect.y, rect.width, t⟩ p = true ↔
      rect.contains p = true ∧ p.y.toNat < rect.y.toNat + t.toNat := by
    rw [hStrip, Rect.contains_iff]
    omega
  have hLower : Rect.contains ⟨rect.x, rect.bottom - t, rect.width, t⟩ p = true ↔
      rect.contains p = true ∧ rect.y.toNat + rect.height.toNat ≤ p.y.toNat + t.toNat := by
    rw [hStrip, Rect.contains_iff, hLow, hRows]
    omega
  have hLeft : Rect.contains ⟨rect.x, rect.y, t, rect.height⟩ p = true ↔
      rect.contains p = true ∧ p.x.toNat < rect.x.toNat + t.toNat := by
    rw [hStrip, Rect.contains_iff]
    omega
  have hOuter : Rect.contains ⟨rect.right - t, rect.y, t, rect.height⟩ p = true ↔
      rect.contains p = true ∧ rect.x.toNat + rect.width.toNat ≤ p.x.toNat + t.toNat := by
    rw [hStrip, Rect.contains_iff, hFar, hColumns]
    omega
  simp only [strips, List.mem_cons, List.not_mem_nil, or_false, exists_eq_or_imp,
    exists_eq_left, hUpper, hLower, hLeft, hOuter, ← and_or_left, Rect.NearEdge, or_assoc]

/-- A border that is held at half of the rectangle has the points that it would have without. -/
theorem nearEdge_borderThickness (rect : Rect) (thickness : Word) (p : Point) :
    rect.NearEdge (borderThickness rect thickness).toNat p ↔
      rect.NearEdge thickness.toNat p := by
  rw [toNat_borderThickness]
  by_cases hThin : 2 * thickness.toNat < min rect.width.toNat rect.height.toNat
  · have hSame : min (min thickness.toNat ((rect.width.toNat + 1) / 2))
        ((rect.height.toNat + 1) / 2) = thickness.toNat := by omega
    rw [hSame]
  · exact iff_of_true (Rect.nearEdge_of_half_le (by omega) p)
      (Rect.nearEdge_of_half_le (by omega) p)

/-- What is painted are the strips. -/
theorem colours_border (rect : Rect) (thickness : Word) (c : Color) :
    (border rect thickness c).Colours c fun p =>
      ∃ strip ∈ strips rect (borderThickness rect thickness), strip.contains p = true := by
  rw [border]
  split
  · rename_i hNone
    refine Layer.colours_empty fun p hStrip => ?_
    simp only [strips, hNone, List.mem_cons, List.not_mem_nil, or_false, exists_eq_or_imp,
      exists_eq_left, Rect.contains_iff, Rect.toNat_right, Rect.toNat_bottom,
      UInt64.toNat_zero] at hStrip
    omega
  · exact Layer.colours_stack fun (strip : Rect) _ => Layer.colours_fill strip.contains c

/-- **What is seen of a border** where a picture can be. -/
theorem border_eq (hx : p.x.toNat * 3 < 1 <<< 64) (hy : p.y.toNat * 3 < 1 <<< 64) (rect : Rect)
    (thickness : Word) (c : Color) :
    border rect thickness c p = if rect.OnBorder thickness p then some c else none := by
  have hThickness := toNat_borderThickness rect thickness
  have hStrips : (∃ strip ∈ strips rect (borderThickness rect thickness),
      strip.contains p = true) ↔ rect.OnBorder thickness p := by
    rw [exists_strip_iff hx hy (by omega) (by omega), nearEdge_borderThickness,
      Rect.onBorder_iff]
  obtain ⟨hColoured, hLeft⟩ := colours_border rect thickness c p
  split
  · rename_i hOn
    exact hColoured (hStrips.mpr hOn)
  · rename_i hAway
    exact hLeft (mt hStrips.mp hAway)

end Framebuffer

-- ---------------------------------------------------------------------------
-- The bytes of a border
-- ---------------------------------------------------------------------------

/-- The picture has a pixel at the point. -/
def DisplayLayout.Shows (layout : DisplayLayout) (p : Point) : Prop :=
  p.x.toNat < layout.shownColumns ∧ p.y.toNat < layout.height.toNat

namespace Framebuffer

variable {layout : DisplayLayout} {memory : Array UInt8}

/-- The pixels of a framebuffer on display memory that was taken over. -/
theorem shows_iff_attach (layout : DisplayLayout) (memory : Array UInt8) (p : Point) :
    layout.Shows p ↔
      p.x < (attach layout memory).1.width ∧ p.y < (attach layout memory).1.height := by
  rw [DisplayLayout.Shows, UInt64.lt_iff_toNat_lt, UInt64.lt_iff_toNat_lt, toNat_width_attach,
    attach_eq]
  rfl

/-- **Exactly the border is painted.** Let display memory have the size that the layout asks for, and
let rectangle and thickness be whatever they are. Painting a border comes to an end, without a fault,
and

* every pixel of the picture that the rectangle contains, but not without the border, has the colour;
* every byte that is not of such a pixel is as it was;
* a border that is as thick as half the smaller side colours all that is seen of the rectangle. -/
theorem drawFrame_border (hSize : memory.size = layout.stride.toNat * layout.height.toNat)
    (hFits : layout.stride.toNat * layout.height.toNat < 1 <<< 64) (rect : Rect)
    (thickness : Word) (c : Color) :
    ∃ after events,
      (drawFrame rect thickness c).run (attach layout memory).1 = .done () after events ∧
      after.memory.size = memory.size ∧
      (∀ p, layout.Shows p → rect.OnBorder thickness p →
        ∀ k < layout.format.bytesPerPixel.toNat,
          after.memory[layout.byteIndex p.x.toNat p.y.toNat k]? = (layout.format.encode c)[k]?) ∧
      (∀ i, (∀ p, layout.Shows p → rect.OnBorder thickness p →
          ∀ k < layout.format.bytesPerPixel.toNat,
            i ≠ layout.byteIndex p.x.toNat p.y.toNat k) →
        after.memory[i]? = memory[i]?) ∧
      (min rect.width.toNat rect.height.toNat ≤ 2 * thickness.toNat →
        ∀ p, layout.Shows p → rect.contains p = true →
          ∀ k < layout.format.bytesPerPixel.toNat,
            after.memory[layout.byteIndex p.x.toNat p.y.toNat k]? =
              (layout.format.encode c)[k]?) := by
  have hSound : (attach layout memory).1.Sound := sound_attach hSize (hSize ▸ hFits)
  have hShows {p : Point} := shows_iff_attach layout memory p
  rw [attach_eq] at hSound hShows ⊢
  obtain ⟨events, hRun⟩ := lays_drawFrame _ rect thickness c _ hSound rfl
  have hBorder {p : Point} (hp : layout.Shows p) :
      border rect thickness c p = if rect.OnBorder thickness p then some c else none := by
    obtain ⟨hx, hy⟩ := hShows.mp hp
    have hWidth := hSound.width_mul_lt
    rw [UInt64.lt_iff_toNat_lt] at hx hy
    have hHeight := hSound.height_mul_lt (by omega)
    exact border_eq (by omega) (by omega) rect thickness c
  have hPainted {p : Point} (hp : layout.Shows p) (hOn : rect.OnBorder thickness p) {k : Nat}
      (hk : k < layout.format.bytesPerPixel.toNat) := by
    have hByte := getElem?_overlay_of_pixel hSound (border rect thickness c) (hShows.mp hp).1
      (hShows.mp hp).2 hk
    rw [hBorder hp, if_pos hOn] at hByte
    exact hByte
  refine ⟨_, events, hRun, Array.size_mapIdx, fun p hp hOn k hk => hPainted hp hOn hk,
    fun i hAway => ?_, fun hHalf p hp hContains k hk => ?_⟩
  · refine getElem?_overlay_of_unpainted hSound fun p c' hColoured hx hy k hk => ?_
    have hp := hShows.mpr ⟨hx, hy⟩
    rw [hBorder hp] at hColoured
    split at hColoured
    · rename_i hOn
      exact hAway p hp hOn k hk
    · cases hColoured
  · exact hPainted hp (Rect.onBorder_iff.mpr ⟨hContains, Rect.nearEdge_of_half_le hHalf p⟩) hk

/-- Rows of four pixels and one byte more. -/
def fourByFour : DisplayLayout := ⟨4, 4, 13, .rgb⟩

theorem drawFrame_border_fourByFour :
    (Array.replicate 52 (9 : UInt8)).size = fourByFour.stride.toNat * fourByFour.height.toNat ∧
    fourByFour.stride.toNat * fourByFour.height.toNat < 1 <<< 64 ∧
    ∃ after events,
      (drawFrame ⟨1, 0, Word.top, 3⟩ 1 (.rgb 10 20 30)).run
        (attach fourByFour (Array.replicate 52 9)).1 = .done () after events ∧
      after.memory[fourByFour.byteIndex 1 1 2]? = some 30 ∧
      after.memory[fourByFour.byteIndex 3 1 2]? = some 9 := by
  have hSize : (Array.replicate 52 (9 : UInt8)).size =
      fourByFour.stride.toNat * fourByFour.height.toNat := by decide
  have hFits : fourByFour.stride.toNat * fourByFour.height.toNat < 1 <<< 64 := by decide
  obtain ⟨after, events, hRun, -, hPainted, hKept, -⟩ :=
    drawFrame_border hSize hFits ⟨1, 0, Word.top, 3⟩ 1 (.rgb 10 20 30)
  refine ⟨hSize, hFits, after, events, hRun, ?_, ?_⟩
  · exact (hPainted ⟨1, 1⟩ ⟨by decide, by decide⟩ (by decide) 2 (by decide)).trans (by decide)
  · refine (hKept _ fun p hp hOn k hk hByte => ?_).trans (by decide)
    -- the byte is of one pixel only, which is not on the border
    obtain ⟨x, y⟩ := p
    have hIndex : 24 = y.toNat * 13 + x.toNat * 3 + k := hByte
    have hColumn : x.toNat < 4 := hp.1
    have hChannel : k < 3 := hk
    have hRow : y.toNat = 1 := by omega
    have hPixel : Point.mk x y = ⟨3, 1⟩ := by
      rw [Point.mk.injEq, ← UInt64.toNat_inj, ← UInt64.toNat_inj]
      exact ⟨show x.toNat = 3 by omega, hRow⟩
    rw [hPixel] at hOn
    exact absurd hOn (by decide)

end Framebuffer

end TouchPanel
