import TouchPanel.Font.Psf

/-!
# Accepted fonts

A font that was accepted has a bitmap for each of its characters, cut out of the bytes it was read
from, and its sizes are small: they were read from bytes or from fields of four bytes.

* `accepted_of_load`       — what accepted fonts have in common.
* `Regular`, `FromFile`    — weaker conditions, which are all that painting asks for.
* `Accepted.glyph?_eq`     — the bitmap of a character is its part of the table.
* `mem_litCells_iff`       — the cells of a bitmap that are drawn.
-/

namespace TouchPanel.Font

variable {font : Font} {data : Array UInt8}

-- ---------------------------------------------------------------------------
-- Reading
-- ---------------------------------------------------------------------------

theorem littleEndian_lt (bytes : List UInt8) : littleEndian bytes < 1 <<< (8 * bytes.length) := by
  induction bytes with
  | nil => decide
  | cons byte rest ih =>
    have hByte := byte.toNat_lt
    rw [littleEndian, List.length_cons, Nat.mul_succ, Nat.shiftLeft_add, Nat.shiftLeft_eq _ 8]
    omega

/-- A field of a header has four bytes. -/
theorem headerField_lt (data : Array UInt8) (index : Nat) :
    (headerField data index).toNat < 1 <<< 32 := by
  have hLength : (data.extract (4 + 4 * index) (8 + 4 * index)).toList.length ≤ 4 := by
    rw [Array.length_toList, Array.size_extract]
    omega
  have hValue := littleEndian_lt (data.extract (4 + 4 * index) (8 + 4 * index)).toList
  have hFour : 1 <<< (8 * (data.extract (4 + 4 * index) (8 + 4 * index)).toList.length) ≤
      1 <<< 32 := by
    simp only [Nat.shiftLeft_eq, Nat.one_mul]
    exact Nat.pow_le_pow_right (by decide) (by omega)
  have hLt : littleEndian (data.extract (4 + 4 * index) (8 + 4 * index)).toList < 1 <<< 32 :=
    Nat.lt_of_lt_of_le hValue hFour
  rw [headerField, UInt64.toNat_ofNat_of_lt' (Nat.lt_trans hLt (by decide))]
  exact hLt

/-- What all fonts have in common that were accepted. -/
structure Accepted (font : Font) : Prop where
  size_eq : font.glyphs.size = font.glyphCount.toNat * font.bytesPerGlyph.toNat
  size_lt : font.glyphs.size < 1 <<< 64
  width_lt : font.width.toNat < 1 <<< 32
  bytesPerGlyph_lt : font.bytesPerGlyph.toNat < 1 <<< 32

theorem accepted_of_withGlyphs {offset width height count bytes : Word} {version : FontVersion}
    (h : withGlyphs data offset width height count bytes version = .ok font)
    (hWidth : width.toNat < 1 <<< 32) (hBytes : bytes.toNat < 1 <<< 32) : font.Accepted := by
  unfold withGlyphs at h
  split at h
  · cases h
  · rename_i needed hNeeded
    obtain ⟨total, hTotal, hSum⟩ := Option.bind_eq_some_iff.mp hNeeded
    rw [Word.mul?_eq_some_iff] at hTotal
    rw [Word.add?_eq_some_iff] at hSum
    split at h
    · cases h
    · rename_i hEnough
      cases h
      have hSize : (data.extract offset.toNat needed.toNat).size = count.toNat * bytes.toNat := by
        rw [Array.size_extract]
        omega
      exact ⟨hSize, by rw [hSize, ← hTotal]; exact total.toNat_lt, hWidth, hBytes⟩

theorem accepted_of_load (h : load data = .ok font) : font.Accepted := by
  unfold load at h
  split at h
  · unfold load1 at h
    split at h
    · cases h
    · refine accepted_of_withGlyphs h (by decide) ?_
      rw [UInt8.toNat_toUInt64]
      exact Nat.lt_trans (UInt8.toNat_lt _) (by decide)
  · split at h
    · unfold load2 at h
      split at h
      · cases h
      · exact accepted_of_withGlyphs h (headerField_lt data 6) (headerField_lt data 4)
    · split at h <;> cases h

-- ---------------------------------------------------------------------------
-- Looking for bitmaps
-- ---------------------------------------------------------------------------

/-- Looking for the bitmap of a character does not fault. -/
def Regular (font : Font) : Prop :=
  ∀ c : Char, ∃ bitmap?, font.glyph? c = .ok bitmap?

/-- A character that the font does not have. -/
theorem glyph?_of_ge {c : Char} (h : font.glyphCount.toNat ≤ c.toNat) :
    font.glyph? c = .ok none := by
  have hUnknown : font.glyphCount ≤ c.val.toUInt64 := by
    rw [UInt64.le_iff_toNat_le, UInt32.toNat_toUInt64]
    exact h
  rw [glyph?, if_pos hUnknown]
  rfl

/-- A character that the font has, if its bitmap ends inside the plane. -/
theorem glyph?_of_lt {c : Char} (h : c.toNat < font.glyphCount.toNat)
    (hStop : (c.toNat + 1) * font.bytesPerGlyph.toNat < 1 <<< 64) :
    font.glyph? c = .ok (if (c.toNat + 1) * font.bytesPerGlyph.toNat ≤ font.glyphs.size then
      some (font.glyphs.extract (c.toNat * font.bytesPerGlyph.toNat)
        ((c.toNat + 1) * font.bytesPerGlyph.toNat)) else none) := by
  have hIndex : c.val.toUInt64.toNat = c.toNat := UInt32.toNat_toUInt64 c.val
  have hKnown : ¬font.glyphCount ≤ c.val.toUInt64 := by
    rw [UInt64.le_iff_toNat_le, hIndex]
    omega
  have hSum := Nat.add_one_mul c.toNat font.bytesPerGlyph.toNat
  have hProduct : c.val.toUInt64.toNat * font.bytesPerGlyph.toNat < 1 <<< 64 := by
    rw [hIndex]
    omega
  have hStart : (c.val.toUInt64 * font.bytesPerGlyph).toNat =
      c.toNat * font.bytesPerGlyph.toNat := by
    rw [Word.toNat_mul_of_lt hProduct, hIndex]
  have hEnd : (c.val.toUInt64 * font.bytesPerGlyph).toNat + font.bytesPerGlyph.toNat < 1 <<< 64 := by
    rw [hStart]
    omega
  rw [glyph?, if_neg hKnown, Word.mulExact_of_lt hProduct]
  simp only [bind, Except.bind, Word.addExact_of_lt hEnd]
  rw [Word.toNat_add_of_lt hEnd, hStart, ← hSum]
  rfl

/-- The bitmap of a character in an accepted font is its part of the table. -/
theorem Accepted.glyph?_eq (h : font.Accepted) (c : Char) :
    font.glyph? c = .ok (if c.toNat < font.glyphCount.toNat then
      some (font.glyphs.extract (c.toNat * font.bytesPerGlyph.toNat)
        ((c.toNat + 1) * font.bytesPerGlyph.toNat)) else none) := by
  by_cases hKnown : c.toNat < font.glyphCount.toNat
  · have hStop : (c.toNat + 1) * font.bytesPerGlyph.toNat ≤ font.glyphs.size := by
      rw [h.size_eq]
      exact Nat.mul_le_mul_right _ hKnown
    rw [glyph?_of_lt hKnown (Nat.lt_of_le_of_lt hStop h.size_lt), if_pos hStop, if_pos hKnown]
  · rw [glyph?_of_ge (Nat.not_lt.mp hKnown), if_neg hKnown]

theorem Accepted.regular (h : font.Accepted) : font.Regular := fun c => ⟨_, h.glyph?_eq c⟩

/-- Fonts that were accepted are regular. -/
theorem regular_of_load (h : load data = .ok font) : font.Regular := (accepted_of_load h).regular

/-- The bitmaps were read from a file. The size of a character and the number of characters may be
any. -/
def FromFile (font : Font) : Prop :=
  ∃ data loaded, load data = .ok loaded ∧ font.bytesPerGlyph = loaded.bytesPerGlyph ∧
    font.glyphs = loaded.glyphs

theorem FromFile.bytesPerGlyph_lt (h : font.FromFile) :
    font.bytesPerGlyph.toNat < 1 <<< 32 := by
  obtain ⟨data, loaded, hLoad, hBytes, -⟩ := h
  rw [hBytes]
  exact (accepted_of_load hLoad).bytesPerGlyph_lt

/-- The bitmap of a character is found without a fault, and is short. -/
theorem FromFile.exists_glyph? (h : font.FromFile) (c : Char) :
    ∃ bitmap?, font.glyph? c = .ok bitmap? ∧ ∀ bitmap ∈ bitmap?, bitmap.size < 1 <<< 32 := by
  by_cases hKnown : c.toNat < font.glyphCount.toNat
  · have hBytes := h.bytesPerGlyph_lt
    have hIndex : c.toNat < 1114112 := by
      have hValid : c.toNat < 55296 ∨ 57343 < c.toNat ∧ c.toNat < 1114112 := c.valid
      omega
    have hStop : (c.toNat + 1) * font.bytesPerGlyph.toNat ≤ 1114112 * (1 <<< 32) :=
      Nat.mul_le_mul hIndex (Nat.le_of_lt hBytes)
    refine ⟨_, glyph?_of_lt hKnown (by omega), fun bitmap hBitmap => ?_⟩
    split at hBitmap
    · cases hBitmap
      rw [Array.size_extract, Nat.succ_mul]
      omega
    · cases hBitmap
  · exact ⟨none, glyph?_of_ge (Nat.not_lt.mp hKnown), by simp⟩

theorem FromFile.regular (h : font.FromFile) : font.Regular := by
  intro c
  obtain ⟨bitmap?, hBitmap, -⟩ := h.exists_glyph? c
  exact ⟨bitmap?, hBitmap⟩

-- ---------------------------------------------------------------------------
-- Cells
-- ---------------------------------------------------------------------------

/-- The cells of a bitmap that are drawn are those of the character whose bits are set. -/
theorem mem_litCells_iff {bitmap : Array UInt8} {cell : Point} :
    cell ∈ font.litCells bitmap ↔
      cell.x.toNat < font.width.toNat ∧ cell.y.toNat < font.rowCount bitmap ∧
        font.isLit bitmap cell.y.toNat cell.x.toNat = true := by
  simp only [litCells, List.mem_flatMap, List.mem_map, List.mem_filter, List.mem_range]
  constructor
  · intro hCell
    obtain ⟨row, hRow, column, ⟨hColumn, hLit⟩, rfl⟩ := hCell
    have hHeight : row < font.height.toNat := Nat.lt_of_lt_of_le hRow (Nat.min_le_left _ _)
    have hx : (UInt64.ofNat column).toNat = column :=
      UInt64.toNat_ofNat_of_lt' (Nat.lt_trans hColumn font.width.toNat_lt)
    have hy : (UInt64.ofNat row).toNat = row :=
      UInt64.toNat_ofNat_of_lt' (Nat.lt_trans hHeight font.height.toNat_lt)
    rw [hx, hy]
    exact ⟨hColumn, hRow, hLit⟩
  · intro hCell
    obtain ⟨hColumn, hRow, hLit⟩ := hCell
    exact ⟨cell.y.toNat, hRow, cell.x.toNat, ⟨hColumn, hLit⟩, by simp only [UInt64.ofNat_toNat]⟩

/-- The cells of a bitmap that are drawn lie in the character. -/
theorem lt_of_mem_litCells {bitmap : Array UInt8} {cell : Point} (h : cell ∈ font.litCells bitmap) :
    cell.x.toNat < font.width.toNat ∧ cell.y.toNat < font.height.toNat := by
  obtain ⟨hColumn, hRow, -⟩ := mem_litCells_iff.mp h
  exact ⟨hColumn, Nat.lt_of_lt_of_le hRow (Nat.min_le_left _ _)⟩

theorem rowStep_pos (font : Font) : 0 < font.rowStep :=
  Nat.lt_of_lt_of_le Nat.one_pos (Nat.le_max_right _ _)

/-- A bitmap has a row when it has its first byte. -/
theorem lt_rowCount_iff {bitmap : Array UInt8} {row : Nat} :
    row < font.rowCount bitmap ↔
      row < font.height.toNat ∧ row * font.rowStep < bitmap.size := by
  have hStep := font.rowStep_pos
  have hRows : row < (bitmap.size + font.rowStep - 1) / font.rowStep ↔
      row * font.rowStep < bitmap.size := by
    rw [← Nat.succ_le_iff, Nat.le_div_iff_mul_le hStep, Nat.succ_mul]
    omega
  rw [rowCount, Nat.lt_min, hRows]

/-- A bitmap has a byte at least for each of its rows. -/
theorem row_lt_of_mem_litCells {bitmap : Array UInt8} {cell : Point}
    (h : cell ∈ font.litCells bitmap) : cell.y.toNat < bitmap.size := by
  obtain ⟨-, hRow, -⟩ := mem_litCells_iff.mp h
  have hFirst := (lt_rowCount_iff.mp hRow).2
  have hLeast : cell.y.toNat ≤ cell.y.toNat * font.rowStep :=
    Nat.le_mul_of_pos_right _ font.rowStep_pos
  omega

end TouchPanel.Font
