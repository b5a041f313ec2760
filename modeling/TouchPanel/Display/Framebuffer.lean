import TouchPanel.Display.Pixel
import TouchPanel.Paint

/-!
# Framebuffers

A framebuffer is a picture in display memory. Its rows are `stride` bytes apart; in each row the
pixels follow each other from the start, and whatever remains at the end of a row belongs to no
pixel. All drawing is clipped to the picture.

* `DisplayLayout` says how a picture lies in display memory.
* `Framebuffer.attach` takes over display memory, and gives up columns that do not fit.
* `Framebuffer.setPixel`, `fillSpan`, `fillRect`, `drawFrame` and `clear` paint. A pixel outside the
  picture is left out, and a rectangle is clipped; a span has to lie in its row.
* `Framebuffer.Sound` is what the memory has to satisfy for painting never to fault.
-/

namespace TouchPanel

/-! ## Display memory -/

/-- How a picture lies in display memory. -/
structure DisplayLayout where
  width : Word
  height : Word
  /-- The number of bytes from the start of a row to the start of the next. -/
  stride : Word
  format : PixelFormat
  deriving DecidableEq, Repr

namespace DisplayLayout

/-- The number of bytes that the rows take up. -/
def sizeBytes (layout : DisplayLayout) : Except Fault Word :=
  layout.stride.mulExact layout.height

/-- The number of whole pixels in a row. -/
def columns (layout : DisplayLayout) : Word :=
  layout.stride / layout.format.bytesPerPixel

/-- The place of the pixels of a row from the column `first` up to the column `stop`, in a memory of
`size` bytes: the row starts at a multiple of the stride and lies in the memory, and the pixels lie
in the row. -/
def spanOffset (layout : DisplayLayout) (size : Nat) (y first stop : Word) : Except Fault Nat := do
  let rowStart ← y.mulExact layout.stride
  let start ← first.mulExact layout.format.bytesPerPixel
  let stop ← stop.mulExact layout.format.bytesPerPixel
  if stop < start ∨ layout.stride < stop ∨ size < rowStart.toNat + layout.stride.toNat then
    .error .outOfRange
  else
    .ok (rowStart.toNat + start.toNat)

/-- The place of a pixel in a memory of `size` bytes. -/
def pixelOffset (layout : DisplayLayout) (size : Nat) (x y : Word) : Except Fault Nat := do
  layout.spanOffset size y x (← x.addExact 1)

end DisplayLayout

/-! ## Framebuffers -/

/-- A picture in display memory. -/
structure Framebuffer where
  layout : DisplayLayout
  memory : Array UInt8

namespace Framebuffer

/-- The number of columns of the picture. -/
def width (fb : Framebuffer) : Word := fb.layout.width

/-- The number of rows of the picture. -/
def height (fb : Framebuffer) : Word := fb.layout.height

/-- The area of the picture. -/
def bounds (fb : Framebuffer) : Rect := ⟨0, 0, fb.width, fb.height⟩

/-- Takes over display memory. When a row has no room for all columns, those that do not fit are
given up and a warning is reported. -/
def attach (layout : DisplayLayout) (memory : Array UInt8) : Framebuffer × List Event :=
  if layout.columns < layout.width then
    (⟨{ layout with width := layout.columns }, memory⟩,
      [.widthClamped layout.width layout.stride layout.columns])
  else
    (⟨layout, memory⟩, [])

/-- The memory holds all rows, and each row has room for all columns. -/
structure Sound (fb : Framebuffer) : Prop where
  size_eq : fb.memory.size = fb.layout.stride.toNat * fb.layout.height.toNat
  size_lt : fb.memory.size < 1 <<< 64
  width_le : fb.width.toNat * fb.layout.format.bytesPerPixel.toNat ≤ fb.layout.stride.toNat

/-- Taking over memory of the size that the layout asks for gives a sound framebuffer. -/
theorem sound_attach {layout : DisplayLayout} {memory : Array UInt8}
    (size_eq : memory.size = layout.stride.toNat * layout.height.toNat)
    (size_lt : memory.size < 1 <<< 64) : (attach layout memory).1.Sound := by
  have columns_le :
      layout.columns.toNat * layout.format.bytesPerPixel.toNat ≤ layout.stride.toNat := by
    rw [DisplayLayout.columns, UInt64.toNat_div]
    exact Nat.div_mul_le_self _ _
  unfold attach
  split
  · exact ⟨size_eq, size_lt, columns_le⟩
  · rename_i fits
    rw [UInt64.lt_iff_toNat_lt] at fits
    exact ⟨size_eq, size_lt,
      Nat.le_trans (Nat.mul_le_mul_right _ (Nat.le_of_not_lt fits)) columns_le⟩

/-! ## Painting -/

/-- Colours one pixel, unless it lies outside the picture. -/
def setPixel (x y : Word) (c : Color) : Paint Framebuffer Unit := fun fb =>
  if x < fb.width ∧ y < fb.height then
    match fb.layout.pixelOffset fb.memory.size x y with
    | .ok start =>
        .done () { fb with memory := writeBytes fb.memory start (fb.layout.format.encode c) } []
    | .error fault => .faulted fault fb []
  else
    .done () fb []

/-- Where the bytes of a pixel start. -/
def place (fb : Framebuffer) (x y : Word) : Nat :=
  y.toNat * fb.layout.stride.toNat + x.toNat * fb.layout.format.bytesPerPixel.toNat

/-- In a sound framebuffer the columns of the picture lie in their row, and that in the memory. -/
theorem Sound.spanOffset_eq {fb : Framebuffer} (sound : fb.Sound) {y first stop : Word}
    (hy : y < fb.height) (order : first.toNat ≤ stop.toNat)
    (stop_le : stop.toNat ≤ fb.width.toNat) :
    fb.layout.spanOffset fb.memory.size y first stop = .ok (fb.place first y) := by
  obtain ⟨size_eq, size_lt, width_le⟩ := sound
  rw [UInt64.lt_iff_toNat_lt] at hy
  have stride_lt := fb.layout.stride.toNat_lt
  have row_le : y.toNat * fb.layout.stride.toNat + fb.layout.stride.toNat ≤ fb.memory.size := by
    rw [size_eq, ← Nat.succ_mul, Nat.mul_comm]
    exact Nat.mul_le_mul_left _ hy
  have last_le : stop.toNat * fb.layout.format.bytesPerPixel.toNat ≤ fb.layout.stride.toNat :=
    Nat.le_trans (Nat.mul_le_mul_right _ stop_le) width_le
  have first_le : first.toNat * fb.layout.format.bytesPerPixel.toNat ≤
      stop.toNat * fb.layout.format.bytesPerPixel.toNat := Nat.mul_le_mul_right _ order
  have row_lt : y.toNat * fb.layout.stride.toNat < 1 <<< 64 := by omega
  have first_lt : first.toNat * fb.layout.format.bytesPerPixel.toNat < 1 <<< 64 := by omega
  have last_lt : stop.toNat * fb.layout.format.bytesPerPixel.toNat < 1 <<< 64 := by omega
  unfold DisplayLayout.spanOffset
  simp only [Word.mulExact_of_lt row_lt, Word.mulExact_of_lt first_lt,
    Word.mulExact_of_lt last_lt, bind, Except.bind]
  rw [Word.toNat_mul_of_lt row_lt, Word.toNat_mul_of_lt first_lt, if_neg]
  · rfl
  · rw [UInt64.lt_iff_toNat_lt, UInt64.lt_iff_toNat_lt, Word.toNat_mul_of_lt first_lt,
      Word.toNat_mul_of_lt last_lt]
    omega

/-- A pixel of the picture is one column of its row. -/
theorem Sound.pixelOffset_eq {fb : Framebuffer} (sound : fb.Sound) {x y : Word}
    (hx : x < fb.width) (hy : y < fb.height) :
    fb.layout.pixelOffset fb.memory.size x y = .ok (fb.place x y) := by
  rw [UInt64.lt_iff_toNat_lt] at hx
  have width_lt := fb.width.toNat_lt
  have next_lt : x.toNat + (1 : Word).toNat < 1 <<< 64 := by
    rw [UInt64.toNat_one]
    omega
  have next_eq : (x + 1).toNat = x.toNat + 1 := Word.toNat_add_of_lt next_lt
  rw [DisplayLayout.pixelOffset, Word.addExact_of_lt next_lt]
  exact sound.spanOffset_eq hy (by omega) (by omega)

/-- Painting a pixel of a sound framebuffer writes its bytes. -/
theorem Sound.run_setPixel {fb : Framebuffer} (sound : fb.Sound) {x y : Word} (c : Color)
    (hx : x < fb.width) (hy : y < fb.height) :
    (setPixel x y c).run fb =
      .done () ⟨fb.layout, writeBytes fb.memory (fb.place x y) (fb.layout.format.encode c)⟩
        [] := by
  simp only [Paint.run, setPixel, if_pos (And.intro hx hy), sound.pixelOffset_eq hx hy]

theorem run_setPixel_outside {fb : Framebuffer} {x y : Word} (c : Color)
    (outside : ¬(x < fb.width ∧ y < fb.height)) :
    (setPixel x y c).run fb = .done () fb [] := by
  simp only [Paint.run, setPixel, if_neg outside]

/-- Colours a row from the column `first` up to the column `stop`. They have to lie in the row. -/
def fillSpan (y first stop : Word) (c : Color) : Paint Framebuffer Unit := fun fb =>
  match fb.layout.spanOffset fb.memory.size y first stop with
  | .ok start =>
      let pixel := fb.layout.format.encode c
      .done () { fb with memory := writePixels fb.memory start pixel (stop - first).toNat } []
  | .error fault => .faulted fault fb []

/-- In a sound framebuffer the pixels are written from the place of the first one on. -/
theorem Sound.run_fillSpan {fb : Framebuffer} (sound : fb.Sound) {y first stop : Word} (c : Color)
    (hy : y < fb.height) (order : first.toNat ≤ stop.toNat)
    (stop_le : stop.toNat ≤ fb.width.toNat) :
    (fillSpan y first stop c).run fb =
      .done () ⟨fb.layout, writePixels fb.memory (fb.place first y) (fb.layout.format.encode c)
        (stop.toNat - first.toNat)⟩ [] := by
  simp only [Paint.run, fillSpan, sound.spanOffset_eq hy order stop_le,
    Word.toNat_sub_of_ge order]

/-- Colours the part of a rectangle that lies in the picture, row by row. -/
def fillRect (rect : Rect) (c : Color) : Paint Framebuffer Unit := do
  match rect.clipTo? (← Paint.read bounds) with
  | none => return
  | some clipped =>
      Paint.forEach clipped.rows fun y => fillSpan y clipped.x clipped.right c

/-- Colours a border inside the edges of a rectangle. A border thicker than half the rectangle
covers all of it. -/
def drawFrame (rect : Rect) (thickness : Word) (c : Color) : Paint Framebuffer Unit := do
  let t := min (min thickness (rect.width / 2 + rect.width % 2))
    (rect.height / 2 + rect.height % 2)
  if t = 0 then
    return
  fillRect ⟨rect.x, rect.y, rect.width, t⟩ c
  fillRect ⟨rect.x, ← rect.bottom.subExact t, rect.width, t⟩ c
  fillRect ⟨rect.x, rect.y, t, rect.height⟩ c
  fillRect ⟨← rect.right.subExact t, rect.y, t, rect.height⟩ c

/-- Colours the whole picture. -/
def clear (c : Color) : Paint Framebuffer Unit := do
  fillRect (← Paint.read bounds) c

end Framebuffer

end TouchPanel
