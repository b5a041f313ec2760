import TouchPanel.Word

/-!
# Points, sizes and rectangles

The plane starts at the upper left corner and ends at the largest word: moving something past
that limit holds it there, and the right and bottom edges of a rectangle are held there too.
A rectangle is half open: it contains its left and upper edges but neither its right nor its
bottom one, so a rectangle without width or height contains nothing.
-/

namespace TouchPanel

/-! ## Points and sizes -/

/-- A place in the plane. -/
structure Point where
  x : Word
  y : Word
  deriving DecidableEq, Repr

/-- The upper left corner of the plane. -/
def Point.zero : Point := ⟨0, 0⟩

/-- The point moved by `delta`, held at the limit of the plane. -/
def Point.offset (p delta : Point) : Point :=
  ⟨p.x.addSat delta.x, p.y.addSat delta.y⟩

@[simp] theorem Point.offset_zero (p : Point) : p.offset .zero = p := by
  simp [Point.offset, Point.zero]

/-- The extent of something in the plane. -/
structure Size where
  width : Word
  height : Word
  deriving DecidableEq, Repr

/-! ## Rectangles -/

/-- The rectangle with upper left corner `(x, y)`. -/
structure Rect where
  x : Word
  y : Word
  width : Word
  height : Word
  deriving DecidableEq, Repr

namespace Rect

/-- The rectangle of the given size at a point. -/
def ofCorner (corner : Point) (size : Size) : Rect :=
  ⟨corner.x, corner.y, size.width, size.height⟩

/-- The rectangle that contains nothing, at the upper left corner of the plane. -/
def zero : Rect := ⟨0, 0, 0, 0⟩

/-- The upper left corner. -/
def topLeft (r : Rect) : Point := ⟨r.x, r.y⟩

/-- The extent. -/
def size (r : Rect) : Size := ⟨r.width, r.height⟩

/-- The first column to the right of the rectangle. -/
def right (r : Rect) : Word := r.x.addSat r.width

/-- The first row below the rectangle. -/
def bottom (r : Rect) : Word := r.y.addSat r.height

@[simp] theorem toNat_right (r : Rect) :
    r.right.toNat = min ((1 <<< 64) - 1) (r.x.toNat + r.width.toNat) :=
  Word.toNat_addSat _ _

@[simp] theorem toNat_bottom (r : Rect) :
    r.bottom.toNat = min ((1 <<< 64) - 1) (r.y.toNat + r.height.toNat) :=
  Word.toNat_addSat _ _

/-- Whether the rectangle has no width or no height. -/
def isEmpty (r : Rect) : Bool :=
  r.width == 0 || r.height == 0

/-- Whether a point lies in the rectangle. -/
def contains (r : Rect) (p : Point) : Bool :=
  decide (r.x ≤ p.x ∧ p.x < r.right ∧ r.y ≤ p.y ∧ p.y < r.bottom)

theorem contains_iff {r : Rect} {p : Point} :
    r.contains p = true ↔
      r.x.toNat ≤ p.x.toNat ∧ p.x.toNat < r.right.toNat ∧
        r.y.toNat ≤ p.y.toNat ∧ p.y.toNat < r.bottom.toNat := by
  unfold contains
  rw [decide_eq_true_iff, UInt64.le_iff_toNat_le, UInt64.lt_iff_toNat_lt,
    UInt64.le_iff_toNat_le, UInt64.lt_iff_toNat_lt]

/-- The same extent, moved by `delta` and held at the limit of the plane. -/
def translate (r : Rect) (delta : Point) : Rect :=
  ⟨r.x.addSat delta.x, r.y.addSat delta.y, r.width, r.height⟩

/-- What remains when a margin of `amount` is cut off on every side. -/
def inset (r : Rect) (amount : Word) : Rect :=
  { x := r.x.addSat amount
    y := r.y.addSat amount
    width := r.width.subSat (amount.mulSat 2)
    height := r.height.subSat (amount.mulSat 2) }

/-- A rectangle of the given size, no larger than this one, in the middle of it. -/
def centered (r : Rect) (size : Size) : Rect :=
  let width := min size.width r.width
  let height := min size.height r.height
  { x := r.x.addSat ((r.width - width) / 2)
    y := r.y.addSat ((r.height - height) / 2)
    width := width
    height := height }

/-- The part of the rectangle inside `bounds`, if there is any. -/
def clipTo? (r bounds : Rect) : Option Rect :=
  let x := max r.x bounds.x
  let y := max r.y bounds.y
  let right := min r.right bounds.right
  let bottom := min r.bottom bounds.bottom
  if x < right ∧ y < bottom then some ⟨x, y, right - x, bottom - y⟩ else none

/-- The rows of the rectangle, from the top. -/
def rows (r : Rect) : List Word :=
  (List.range' r.y.toNat (r.bottom.toNat - r.y.toNat)).map UInt64.ofNat

theorem mem_rows {r : Rect} {y : Word} :
    y ∈ r.rows ↔ r.y.toNat ≤ y.toNat ∧ y.toNat < r.bottom.toNat := by
  have bottom_lt := r.bottom.toNat_lt
  simp only [rows, List.mem_map, List.mem_range'_1]
  constructor
  · rintro ⟨row, hrow, rfl⟩
    rw [UInt64.toNat_ofNat_of_lt' (show row < 1 <<< 64 by omega)]
    omega
  · rintro ⟨top, bottom⟩
    exact ⟨y.toNat, by omega, UInt64.ofNat_toNat⟩

end Rect

end TouchPanel
