import TouchPanel.Proofs.Display.TextPixels
import TouchPanel.Proofs.Font.Loading

/-!
# Well-formed fonts

That the bytes of a font are accepted says how many there are. It does not say that the numbers in
the header go together: of the sizes of a character, the bytes of its bitmap and the place of the
first bitmap, each may be any number in a header of version 2. Here it is told from the header
whether they do, so that each cell of a character has a bit in the bitmap of that character.

* `cutOut_of_load`             — an accepted font is the part of its bytes that the header names.
* `glyph?_eq_some_iff_of_load` — so is the bitmap of each character.
* `WellFormed`                 — no bitmap lies in the header, and each has bytes for all rows.
* `wellFormed_of_rows`         — then each cell of a character has a bit in its bitmap.
* `wellFormed_iff`             — which accepted fonts are well formed.
-/

namespace TouchPanel.Font

variable {font : Font} {data : Array UInt8}

-- ---------------------------------------------------------------------------
-- Where the bitmaps are
-- ---------------------------------------------------------------------------

/-- Bytes that are accepted have the magic number of a version, and are complete. -/
theorem exists_complete_of_load (h : load data = .ok font) :
    ∃ version : FontVersion, version.magic.toList <+: data.toList ∧ Complete data version := by
  have hMagic : ∃ version : FontVersion, version.magic.toList <+: data.toList := by
    by_cases hFirst : startsWith magic1 data = true
    · exact ⟨.v1, startsWith_iff.mp hFirst⟩
    · by_cases hSecond : startsWith magic2 data = true
      · exact ⟨.v2, startsWith_iff.mp hSecond⟩
      · rw [load, if_neg hFirst, if_neg hSecond] at h
        split at h <;> cases h
  obtain ⟨version, hMagic⟩ := hMagic
  by_cases hHeader : version.headerSize ≤ data.size
  · obtain ⟨offset, width, height, count, bytes, hLoad, hWords⟩ := exists_load_eq hMagic hHeader
    refine ⟨version, hMagic, hHeader, Nat.le_of_not_lt fun hMissing => ?_⟩
    rw [hLoad, withGlyphs_of_missing hWords hMissing] at h
    cases h
  · rw [load_of_short hMagic (Nat.lt_of_not_le hHeader)] at h
    cases h

/-- A font is what the header says, and its bitmaps are the part of the bytes that the header
names. -/
structure CutOut (data : Array UInt8) (font : Font) : Prop where
  describes : Describes (Header.read data font.version) font
  complete : Complete data font.version
  glyphs_eq : font.glyphs = data.extract (Header.read data font.version).offset
    ((Header.read data font.version).offset +
      (Header.read data font.version).glyphCount * (Header.read data font.version).bytesPerGlyph)

/-- An accepted font is cut out of its bytes. -/
theorem cutOut_of_load (h : load data = .ok font) : CutOut data font := by
  obtain ⟨version, hMagic, hHeader, hBitmaps⟩ := exists_complete_of_load h
  obtain ⟨offset, width, height, count, bytes, hLoad, hWords⟩ := exists_load_eq hMagic hHeader
  rw [withGlyphs_of_le hWords hBitmaps, h] at hLoad
  cases hLoad
  exact ⟨⟨hWords.width_eq, hWords.height_eq, hWords.count_eq, hWords.bytes_eq⟩,
    ⟨hHeader, hBitmaps⟩, rfl⟩

/-- The bitmaps that can be found are those of the characters that the header counts, and each is
its part of the bytes. -/
theorem glyph?_eq_some_iff_of_load (h : load data = .ok font) {c : Char} {bitmap : Array UInt8} :
    font.glyph? c = .ok (some bitmap) ↔
      c.toNat < (Header.read data font.version).glyphCount ∧
        bitmap = data.extract ((Header.read data font.version).bitmapStart c.toNat)
          ((Header.read data font.version).bitmapStart c.toNat +
            (Header.read data font.version).bytesPerGlyph) := by
  obtain ⟨hDescribes, -, hGlyphs⟩ := cutOut_of_load h
  rw [(accepted_of_load h).glyph?_eq, hDescribes.glyphCount, hDescribes.bytesPerGlyph, hGlyphs]
  split
  · rename_i hKnown
    rw [Header.extract_bitmap hKnown, Except.ok.injEq, Option.some.injEq]
    exact ⟨fun hSame => ⟨hKnown, hSame.symm⟩, fun hBoth => hBoth.2.symm⟩
  · rename_i hUnknown
    exact iff_of_false (fun hNone => nomatch hNone) fun hBoth => hUnknown hBoth.1

section Bitmap

variable {c : Char} {bitmap : Array UInt8}

/-- A bitmap has as many bytes as the header says. -/
theorem size_of_glyph? (h : load data = .ok font) (hGlyph : font.glyph? c = .ok (some bitmap)) :
    bitmap.size = (Header.read data font.version).bytesPerGlyph := by
  obtain ⟨hKnown, rfl⟩ := (glyph?_eq_some_iff_of_load h).mp hGlyph
  have hStop := Header.bitmapStart_add_le hKnown
  have hSize := (cutOut_of_load h).complete.2
  rw [Array.size_extract]
  omega

/-- A byte of a bitmap is the one of the data at that distance from its start. -/
theorem getElem?_of_glyph? (h : load data = .ok font)
    (hGlyph : font.glyph? c = .ok (some bitmap)) {i : Nat} (hi : i < bitmap.size) :
    data[(Header.read data font.version).bitmapStart c.toNat + i]? = bitmap[i]? := by
  rw [size_of_glyph? h hGlyph] at hi
  obtain ⟨hKnown, rfl⟩ := (glyph?_eq_some_iff_of_load h).mp hGlyph
  have hStop := Header.bitmapStart_add_le hKnown
  have hSize := (cutOut_of_load h).complete.2
  rw [Array.getElem?_extract, if_pos (by omega)]

end Bitmap

-- ---------------------------------------------------------------------------
-- Rows and cells
-- ---------------------------------------------------------------------------

/-- A font goes together with the bytes that it was read from: no bitmap lies in the header, each one
has bytes for all rows, and every cell of a character is drawn or not as a bit of its own bitmap
says. -/
structure WellFormed (data : Array UInt8) (font : Font) : Prop where
  headerSize_le : font.version.headerSize ≤ (Header.read data font.version).offset
  rows_le : ∀ c bitmap, font.glyph? c = .ok (some bitmap) →
    font.height.toNat * font.rowBytes.toNat ≤ bitmap.size
  cells : ∀ c bitmap, font.glyph? c = .ok (some bitmap) →
    ∀ cell : Point, cell.x.toNat < font.width.toNat → cell.y.toNat < font.height.toNat →
      ∃ byte, bitmap[font.cellByte cell.x.toNat cell.y.toNat]? = some byte ∧
        data[(Header.read data font.version).bitmapStart c.toNat +
          font.cellByte cell.x.toNat cell.y.toNat]? = some byte ∧
        (cell ∈ font.litCells bitmap ↔ byte.toNat.testBit (7 - cell.x.toNat % 8) = true)

/-- The byte of a cell is one of the bytes of the rows. -/
theorem Accepted.cellByte_lt (h : font.Accepted) {column row : Nat}
    (hColumn : column < font.width.toNat) (hRow : row < font.height.toNat) :
    font.cellByte column row < font.height.toNat * font.rowBytes.toNat := by
  have hRows : (row + 1) * font.rowBytes.toNat ≤ font.height.toNat * font.rowBytes.toNat :=
    Nat.mul_le_mul_right _ hRow
  have hByte : column / 8 < font.rowBytes.toNat := by
    rw [h.toNat_rowBytes]
    omega
  rw [Nat.add_one_mul] at hRows
  rw [cellByte]
  omega

/-- Where a bitmap has the byte of a cell, the cell is drawn if its bit is set. -/
theorem Accepted.mem_litCells_iff_testBit (h : font.Accepted) {bitmap : Array UInt8} {cell : Point}
    (hColumn : cell.x.toNat < font.width.toNat) (hRow : cell.y.toNat < font.height.toNat)
    {byte : UInt8} (hByte : bitmap[font.cellByte cell.x.toNat cell.y.toNat]? = some byte) :
    cell ∈ font.litCells bitmap ↔ byte.toNat.testBit (7 - cell.x.toNat % 8) = true := by
  -- a character with a column has a byte in each row
  have hStep : font.rowStep = font.rowBytes.toNat := by
    rw [rowStep, Nat.max_eq_left]
    rw [h.toNat_rowBytes]
    omega
  have hLt := (Array.getElem?_eq_some_iff.mp hByte).1
  rw [cellByte] at hByte hLt
  rw [mem_litCells_iff, lt_rowCount_iff, isLit, testBit_getD_iff, hStep, hByte]
  constructor
  · intro hCell
    obtain ⟨-, -, _, hSame, hBit⟩ := hCell
    cases hSame
    exact hBit
  · intro hBit
    exact ⟨hColumn, ⟨hRow, by omega⟩, byte, rfl, hBit⟩

/-- An accepted font whose bitmaps have bytes for all rows has a bit for each cell. -/
theorem wellFormed_of_rows (h : load data = .ok font)
    (hTable : font.version.headerSize ≤ (Header.read data font.version).offset)
    (hRows : ∀ c bitmap, font.glyph? c = .ok (some bitmap) →
      font.height.toNat * font.rowBytes.toNat ≤ bitmap.size) : WellFormed data font where
  headerSize_le := hTable
  rows_le := hRows
  cells c bitmap hGlyph cell hColumn hRow := by
    have hAccepted := accepted_of_load h
    have hLt : font.cellByte cell.x.toNat cell.y.toNat < bitmap.size :=
      Nat.lt_of_lt_of_le (hAccepted.cellByte_lt hColumn hRow) (hRows c bitmap hGlyph)
    have hByte := Array.getElem?_eq_getElem hLt
    exact ⟨_, hByte, (getElem?_of_glyph? h hGlyph hLt).trans hByte,
      hAccepted.mem_litCells_iff_testBit hColumn hRow hByte⟩

/-- Whether all bitmaps have bytes for all rows can be told from the header. -/
theorem rows_le_iff (h : load data = .ok font) :
    (∀ c bitmap, font.glyph? c = .ok (some bitmap) →
        font.height.toNat * font.rowBytes.toNat ≤ bitmap.size) ↔
      (Header.read data font.version).glyphCount = 0 ∨
        (Header.read data font.version).height * (((Header.read data font.version).width + 7) / 8) ≤
          (Header.read data font.version).bytesPerGlyph := by
  have hDescribes := (cutOut_of_load h).describes
  rw [hDescribes.height, (accepted_of_load h).toNat_rowBytes, hDescribes.width]
  constructor
  · intro hRows
    rcases Nat.eq_zero_or_pos (Header.read data font.version).glyphCount with hNone | hSome
    · exact .inl hNone
    · -- the first character is one of the font
      have hFirst := (glyph?_eq_some_iff_of_load h (c := '\x00')).mpr ⟨hSome, rfl⟩
      have hLe := hRows _ _ hFirst
      rw [size_of_glyph? h hFirst] at hLe
      exact .inr hLe
  · intro hHeader c bitmap hGlyph
    have hKnown := ((glyph?_eq_some_iff_of_load h).mp hGlyph).1
    rw [size_of_glyph? h hGlyph]
    exact hHeader.resolve_left (Nat.ne_of_gt (Nat.zero_lt_of_lt hKnown))

/-- **Which accepted fonts are well formed.** The bitmaps of an accepted font are its bytes from the
place on that the header says. They go together with the sizes of the font always in version 1; in
version 2 just if they begin after the header, and there are no characters or each of them has
bytes enough for all its rows. -/
theorem wellFormed_iff (h : load data = .ok font) :
    font.glyphs = data.extract (Header.read data font.version).offset
      ((Header.read data font.version).offset + font.glyphs.size) ∧
    (WellFormed data font ↔
      font.version = .v1 ∨
        32 ≤ (Header.read data font.version).offset ∧
          ((Header.read data font.version).glyphCount = 0 ∨
            (Header.read data font.version).height *
                (((Header.read data font.version).width + 7) / 8) ≤
              (Header.read data font.version).bytesPerGlyph)) := by
  have hCutOut := cutOut_of_load h
  have hSize : font.glyphs.size = (Header.read data font.version).glyphCount *
      (Header.read data font.version).bytesPerGlyph := by
    rw [(accepted_of_load h).size_eq, hCutOut.describes.glyphCount, hCutOut.describes.bytesPerGlyph]
  refine ⟨by rw [hSize]; exact hCutOut.glyphs_eq, ?_⟩
  have hWhen : WellFormed data font ↔
      font.version.headerSize ≤ (Header.read data font.version).offset ∧
        ((Header.read data font.version).glyphCount = 0 ∨
          (Header.read data font.version).height *
              (((Header.read data font.version).width + 7) / 8) ≤
            (Header.read data font.version).bytesPerGlyph) := by
    rw [← rows_le_iff h]
    exact ⟨fun hGood => ⟨hGood.headerSize_le, hGood.rows_le⟩,
      fun hBoth => wellFormed_of_rows h hBoth.1 hBoth.2⟩
  rw [hWhen]
  cases hVersion : font.version with
  | v1 =>
    -- a row of eight pixels is one byte
    have hRow : (Header.read data .v1).height * (((Header.read data .v1).width + 7) / 8) =
        (Header.read data .v1).bytesPerGlyph := by
      simp only [Header.read, Nat.reduceAdd, Nat.reduceDiv, Nat.mul_one]
    exact iff_of_true ⟨Nat.le_refl 4, .inr (Nat.le_of_eq hRow)⟩ (.inl rfl)
  | v2 =>
    refine ⟨.inr, fun hEither => hEither.resolve_left ?_⟩
    exact FontVersion.noConfusion

theorem wellFormed_iff_dashes :
    load dashesData = .ok dashes ∧
    dashes.glyphs = dashesData.extract (Header.read dashesData .v2).offset
      ((Header.read dashesData .v2).offset + dashes.glyphs.size) ∧
    WellFormed dashesData dashes := by
  obtain ⟨hGlyphs, hWhen⟩ := wellFormed_iff load_dashesData
  exact ⟨load_dashesData, hGlyphs, hWhen.mpr (.inr ⟨by decide, .inr (by decide)⟩)⟩

/-- The bytes of a font whose header says that the bitmaps begin where it does itself, and that the
bitmap of its only character, of 16 times 2 pixels, has one byte. -/
def overlappedData : Array UInt8 :=
  #[0x72, 0xb5, 0x4a, 0x86, 0, 0, 0, 0, 0, 0, 0, 0, 0, 0, 0, 0, 1, 0, 0, 0, 1, 0, 0, 0,
    2, 0, 0, 0, 16, 0, 0, 0]

def overlapped : Font where
  version := .v2
  width := 16
  height := 2
  glyphCount := 1
  bytesPerGlyph := 1
  glyphs := #[0x72]

/-- A byte of the magic number is taken for a bitmap, and four are needed. -/
theorem overlapped_not_wellFormed :
    load overlappedData = .ok overlapped ∧
    (Header.read overlappedData .v2).offset < FontVersion.v2.headerSize ∧
    overlapped.glyph? '\x00' = .ok (some #[0x72]) ∧
    ¬overlapped.height.toNat * overlapped.rowBytes.toNat ≤ (#[0x72] : Array UInt8).size ∧
    ¬WellFormed overlappedData overlapped := by
  have hOffset : (Header.read overlappedData .v2).offset < FontVersion.v2.headerSize := by decide
  exact ⟨rfl, hOffset, rfl, by decide, fun hGood => Nat.not_le_of_lt hOffset hGood.headerSize_le⟩

end TouchPanel.Font
