import Mathlib.Data.ENat.Lattice
import Mathlib.Data.Set.Card
import TouchPanel.Proofs.Display.Drawing
import TouchPanel.Proofs.Display.PixelMap

/-!
# The pixels of a text

What writing a text does can be told from the text, the table of the font and a few sums. Of the
characters that the font has, as many are written, side by side, as end within the picture; and of
each of these the pixels are coloured whose bits are set in its bitmap. Nothing else is touched.

* `Font.Inks`            — a cell of a character is set in the table.
* `Font.Marks`           — a pixel is one of the set cells of a row of characters.
* `Font.room`            — how many characters there is room for.
* `lt_charsWritten_iff`  — the characters that are written are the first that there is room for.
* `colours_charsLayer`   — the points that they colour.
* `drawText_marks`       — so a text marks these pixels of the picture and no others.
-/

namespace TouchPanel

-- ---------------------------------------------------------------------------
-- Reading a font
-- ---------------------------------------------------------------------------

namespace Font

variable {font : Font}

/-- The characters that the font has, in order. -/
def known (font : Font) (chars : List Char) : List Char :=
  chars.filter fun char => char.toNat < font.glyphCount.toNat

/-- The place in a bitmap of the byte that has the bit of a cell. -/
def cellByte (font : Font) (column row : Nat) : Nat :=
  row * font.rowBytes.toNat + column / 8

/-- A cell of a character is set: the cell lies in the character, its byte in the bitmap of the
character, and its bit is one. -/
structure Inks (font : Font) (char : Char) (column row : Nat) : Prop where
  column_lt : column < font.width.toNat
  row_lt : row < font.height.toNat
  byte_lt : font.cellByte column row < font.bytesPerGlyph.toNat
  bit : ∃ byte,
    font.glyphs[char.toNat * font.bytesPerGlyph.toNat + font.cellByte column row]? = some byte ∧
      byte.toNat.testBit (7 - column % 8) = true

theorem Inks.toNat_column {char : Char} {column row : Nat} (h : font.Inks char column row) :
    (UInt64.ofNat column).toNat = column :=
  UInt64.toNat_ofNat_of_lt' (Nat.lt_trans h.column_lt font.width.toNat_lt)

theorem Inks.toNat_row {char : Char} {column row : Nat} (h : font.Inks char column row) :
    (UInt64.ofNat row).toNat = row :=
  UInt64.toNat_ofNat_of_lt' (Nat.lt_trans h.row_lt font.height.toNat_lt)

/-- A pixel is a set cell of one of the characters, the first of which has its upper left corner at
a point and each other one its left edge where the one before ends. -/
def Marks (font : Font) (chars : List Char) (corner : Point) (x y : Nat) : Prop :=
  ∃ (i : Nat) (char : Char) (column row : Nat), chars[i]? = some char ∧
    font.Inks char column row ∧
      x = corner.x.toNat + i * font.width.toNat + column ∧ y = corner.y.toNat + row

/-- How many characters end within `width` columns, if the first one starts in the column `x`.
Without a width all of them may. -/
noncomputable def room (font : Font) (width x : Word) : ℕ∞ :=
  {i : Nat | x.toNat + (i + 1) * font.width.toNat ≤ width.toNat}.encard

/-- The number of bytes in a row is exact. -/
theorem Accepted.toNat_rowBytes (h : font.Accepted) :
    font.rowBytes.toNat = (font.width.toNat + 7) / 8 := by
  have hWidth := h.width_lt
  have hSum : (font.width + 7).toNat = font.width.toNat + 7 :=
    Word.toNat_add_of_lt (show font.width.toNat + 7 < 1 <<< 64 by omega)
  rw [rowBytes, UInt64.toNat_div, hSum]
  rfl

theorem testBit_getD_iff {bytes : Array UInt8} {i n : Nat} :
    (bytes.getD i 0).toNat.testBit n = true ↔
      ∃ byte, bytes[i]? = some byte ∧ byte.toNat.testBit n = true := by
  rw [Array.getD_eq_getD_getElem?]
  cases bytes[i]? with
  | none =>
    rw [Option.getD_none, UInt8.toNat_zero, Nat.zero_testBit]
    exact iff_of_false Bool.false_ne_true fun ⟨_, hByte, _⟩ => nomatch hByte
  | some byte => simp

/-- The cells of a bitmap that are drawn are the set cells of its character. -/
theorem Accepted.mem_litCells_iff_inks (h : font.Accepted) {char : Char}
    (hKnown : char.toNat < font.glyphCount.toNat) {cell : Point} :
    cell ∈ font.litCells (font.glyphs.extract (char.toNat * font.bytesPerGlyph.toNat)
        ((char.toNat + 1) * font.bytesPerGlyph.toNat)) ↔
      font.Inks char cell.x.toNat cell.y.toNat := by
  have hStop : (char.toNat + 1) * font.bytesPerGlyph.toNat ≤ font.glyphs.size := by
    rw [h.size_eq]
    exact Nat.mul_le_mul_right _ hKnown
  rw [Nat.add_one_mul] at hStop ⊢
  rw [mem_litCells_iff, lt_rowCount_iff, isLit, testBit_getD_iff, Array.size_extract,
    Nat.min_eq_left hStop, Nat.add_sub_cancel_left]
  simp only [Array.getElem?_extract, Nat.min_eq_left hStop, Nat.add_sub_cancel_left]
  by_cases hColumn : cell.x.toNat < font.width.toNat
  · -- a character with a column has a byte in each row
    have hStep : font.rowStep = font.rowBytes.toNat := by
      rw [rowStep, Nat.max_eq_left]
      rw [h.toNat_rowBytes]
      omega
    rw [hStep]
    constructor
    · intro hCell
      obtain ⟨-, ⟨hRow, -⟩, byte, hByte, hBit⟩ := hCell
      by_cases hLt : font.cellByte cell.x.toNat cell.y.toNat < font.bytesPerGlyph.toNat
      · rw [← cellByte, if_pos hLt] at hByte
        exact ⟨hColumn, hRow, hLt, byte, hByte, hBit⟩
      · rw [← cellByte, if_neg hLt] at hByte
        cases hByte
    · intro hInks
      obtain ⟨-, hRow, hLt, byte, hByte, hBit⟩ := hInks
      rw [← cellByte, if_pos hLt]
      refine ⟨hColumn, ⟨hRow, ?_⟩, byte, hByte, hBit⟩
      exact Nat.lt_of_le_of_lt (Nat.le_add_right _ _) hLt
  · exact iff_of_false (fun hCell => hColumn hCell.1) fun hInks => hColumn hInks.column_lt

theorem marks_nil {corner : Point} {x y : Nat} : ¬font.Marks [] corner x y := by
  intro hMarks
  obtain ⟨_, _, _, _, hChar, -⟩ := hMarks
  cases hChar

theorem marks_cons {char : Char} {rest : List Char} {corner : Point}
    (hStop : corner.x.toNat + font.width.toNat < 1 <<< 64) {x y : Nat} :
    font.Marks (char :: rest) corner x y ↔
      font.Marks rest ⟨corner.x + font.width, corner.y⟩ x y ∨
        ∃ column row, font.Inks char column row ∧
          x = corner.x.toNat + column ∧ y = corner.y.toNat + row := by
  have hNext : (corner.x + font.width).toNat = corner.x.toNat + font.width.toNat :=
    Word.toNat_add_of_lt hStop
  constructor
  · intro hMarks
    obtain ⟨i, other, column, row, hOther, hInks, hx, hy⟩ := hMarks
    cases i with
    | zero =>
      cases hOther
      right
      exact ⟨column, row, hInks, by omega, hy⟩
    | succ i =>
      left
      refine ⟨i, other, column, row, hOther, hInks, ?_, hy⟩
      rw [Nat.succ_mul] at hx
      simp only [hNext]
      omega
  · intro hEither
    rcases hEither with ⟨i, other, column, row, hOther, hInks, hx, hy⟩ | ⟨column, row, hInks, hx, hy⟩
    · refine ⟨i + 1, other, column, row, hOther, hInks, ?_, hy⟩
      simp only [hNext] at hx
      rw [Nat.succ_mul]
      omega
    · exact ⟨0, char, column, row, rfl, hInks, by omega, hy⟩

end Font

-- ---------------------------------------------------------------------------
-- Writing
-- ---------------------------------------------------------------------------

namespace Screen

section Writing

variable {font : Font} {width : Word} {corner : Point} {chars : List Char}

/-- A character colours its set cells. -/
theorem colours_glyphLayer (hFont : font.Accepted) {char : Char}
    (hKnown : char.toNat < font.glyphCount.toNat)
    (hx : corner.x.toNat + font.width.toNat < 1 <<< 64)
    (hy : corner.y.toNat + font.height.toNat < 1 <<< 64) (c : Color) :
    (glyphLayer font (font.glyphs.extract (char.toNat * font.bytesPerGlyph.toNat)
        ((char.toNat + 1) * font.bytesPerGlyph.toNat)) corner c).Colours c fun p =>
      ∃ column row, font.Inks char column row ∧
        p.x.toNat = corner.x.toNat + column ∧ p.y.toNat = corner.y.toNat + row := by
  refine (Layer.colours_stack fun cell _ => Layer.colours_fill _ c).congr fun p => ?_
  simp only [hFont.mem_litCells_iff_inks hKnown]
  constructor
  · intro hPoint
    obtain ⟨cell, hInks, hSame⟩ := hPoint
    obtain rfl := beq_iff_eq.mp hSame
    have hColumn := hInks.column_lt
    have hRow := hInks.row_lt
    exact ⟨_, _, hInks, Word.toNat_add_of_lt (by omega), Word.toNat_add_of_lt (by omega)⟩
  · intro hPoint
    obtain ⟨column, row, hInks, hColumn, hRow⟩ := hPoint
    have hLeft := hInks.column_lt
    have hTop := hInks.row_lt
    have hx' := hInks.toNat_column
    have hy' := hInks.toNat_row
    refine ⟨⟨UInt64.ofNat column, UInt64.ofNat row⟩, by rwa [hx', hy'], ?_⟩
    obtain ⟨x, y⟩ := p
    rw [beq_iff_eq, Point.mk.injEq, ← UInt64.toNat_inj, ← UInt64.toNat_inj,
      Word.toNat_add_of_lt (by rw [hx']; omega), Word.toNat_add_of_lt (by rw [hy']; omega), hx',
      hy']
    exact ⟨hColumn, hRow⟩

/-- The characters that are written are the first that there is room for. -/
theorem lt_charsWritten_iff (hFont : font.Accepted) (h : InRange font width corner chars)
    {i : Nat} :
    i < charsWritten font width chars corner ↔
      i < (font.known chars).length ∧
        corner.x.toNat + (i + 1) * font.width.toNat ≤ width.toNat := by
  induction chars generalizing corner i with
  | nil => exact iff_of_false (Nat.not_lt_zero i) fun hi => Nat.not_lt_zero i hi.1
  | cons char rest ih =>
    have hNext : (corner.x + font.width).toNat = corner.x.toNat + font.width.toNat :=
      Word.toNat_add_of_lt h.stop_lt
    have hMul := Nat.add_one_mul i font.width.toNat
    rw [charsWritten, hFont.glyph?_eq]
    by_cases hEnd : width < corner.x + font.width
    · rw [if_pos hEnd]
      rw [UInt64.lt_iff_toNat_lt, hNext] at hEnd
      omega
    · rw [if_neg hEnd]
      rw [UInt64.lt_iff_toNat_lt, hNext, Nat.not_lt] at hEnd
      by_cases hKnown : char.toNat < font.glyphCount.toNat
      · have hCons : font.known (char :: rest) = char :: font.known rest :=
          List.filter_cons_of_pos (decide_eq_true hKnown)
        rw [if_pos hKnown, hCons, List.length_cons]
        cases i with
        | zero => simp [hEnd]
        | succ i =>
          have hRest := ih (h.advance hEnd) (i := i)
          simp only [hNext] at hRest
          rw [Nat.add_lt_add_iff_right, hRest]
          rw [Nat.add_one_mul (i + 1)]
          omega
      · have hSkip : font.known (char :: rest) = font.known rest :=
          List.filter_cons_of_neg (mt of_decide_eq_true hKnown)
        rw [if_neg hKnown, hSkip]
        exact ih h.skip

/-- The points that a text colours are those that the characters mark that are written. -/
theorem colours_charsLayer (hFont : font.Accepted) (h : InRange font width corner chars)
    (hy : corner.y.toNat + font.height.toNat < 1 <<< 64) (c : Color) :
    (charsLayer font width c chars corner).Colours c fun p =>
      font.Marks ((font.known chars).take (charsWritten font width chars corner)) corner
        p.x.toNat p.y.toNat := by
  induction chars generalizing corner with
  | nil => exact Layer.colours_empty fun p => Font.marks_nil
  | cons char rest ih =>
    have hNext : (corner.x + font.width).toNat = corner.x.toNat + font.width.toNat :=
      Word.toNat_add_of_lt h.stop_lt
    rw [charsWritten, charsLayer, hFont.glyph?_eq]
    by_cases hEnd : width < corner.x + font.width
    · rw [if_pos hEnd, if_pos hEnd, List.take_zero]
      exact Layer.colours_empty fun p => Font.marks_nil
    · rw [if_neg hEnd, if_neg hEnd]
      rw [UInt64.lt_iff_toNat_lt, hNext, Nat.not_lt] at hEnd
      by_cases hKnown : char.toNat < font.glyphCount.toNat
      · have hCons : font.known (char :: rest) = char :: font.known rest :=
          List.filter_cons_of_pos (decide_eq_true hKnown)
        rw [if_pos hKnown, hCons, List.take_succ_cons]
        refine ((ih (h.advance hEnd) hy).onto
          (colours_glyphLayer hFont hKnown h.stop_lt hy c)).congr fun p => ?_
        exact (Font.marks_cons h.stop_lt).symm
      · have hSkip : font.known (char :: rest) = font.known rest :=
          List.filter_cons_of_neg (mt of_decide_eq_true hKnown)
        rw [if_neg hKnown, hSkip]
        exact ih h.skip hy

/-- If the numbers below `r` are those below `n` in a set that has with each number all smaller
ones, then `r` is the smaller one of `n` and the size of the set. -/
theorem eq_min_encard {r n : Nat} {fits : Set Nat} (hLower : IsLowerSet fits)
    (h : ∀ i, i < r ↔ i < n ∧ i ∈ fits) : (r : ℕ∞) = min (n : ℕ∞) fits.encard := by
  by_cases hAll : ∀ i < n, i ∈ fits
  · have hEq : r = n := by
      refine Nat.le_antisymm ?_ ?_
      · exact Nat.le_of_not_lt fun hLt => Nat.lt_irrefl n ((h n).mp hLt).1
      · exact Nat.le_of_not_lt fun hLt => Nat.lt_irrefl r ((h r).mpr ⟨hLt, hAll r hLt⟩)
    have hSub : (Finset.range n : Set Nat) ⊆ fits :=
      fun i hi => hAll i (Finset.mem_range.mp (Finset.mem_coe.mp hi))
    have hLe := Set.encard_le_encard hSub
    rw [Set.encard_coe_eq_coe_finsetCard, Finset.card_range] at hLe
    rw [hEq, min_eq_left hLe]
  · push Not at hAll
    obtain ⟨m, hm, hOut⟩ := hAll
    have hFits : fits = (Finset.range r : Set Nat) := by
      ext i
      rw [Finset.mem_coe, Finset.mem_range, h]
      constructor
      · intro hi
        have hLt : i < m := Nat.lt_of_not_le fun hLe => hOut (hLower hLe hi)
        exact ⟨Nat.lt_trans hLt hm, hi⟩
      · intro hi
        exact hi.2
    have hLe : r ≤ n := Nat.le_of_not_lt fun hLt => Nat.lt_irrefl n ((h n).mp hLt).1
    rw [hFits, Set.encard_coe_eq_coe_finsetCard, Finset.card_range,
      min_eq_right (Nat.cast_le.mpr hLe)]

/-- As many characters are written as the font has and as there is room for. -/
theorem charsWritten_eq (hFont : font.Accepted) (h : InRange font width corner chars) :
    (charsWritten font width chars corner : ℕ∞) =
      min ((font.known chars).length : ℕ∞) (font.room width corner.x) := by
  refine eq_min_encard ?_ fun i => lt_charsWritten_iff hFont h
  intro i j hLe hi
  have hMul : (j + 1) * font.width.toNat ≤ (i + 1) * font.width.toNat :=
    Nat.mul_le_mul_right _ (Nat.succ_le_succ hLe)
  exact Nat.le_trans (Nat.add_le_add_left hMul _) hi

end Writing

end Screen

-- ---------------------------------------------------------------------------
-- Pixels
-- ---------------------------------------------------------------------------

namespace Framebuffer

/-- A byte that belongs to no pixel of the picture is never painted. -/
theorem getElem?_overlay_of_outside {fb : Framebuffer} (hSound : fb.Sound) (layer : Layer) {i : Nat}
    (hOutside : ∀ p : Point, p.x < fb.width → p.y < fb.height →
      ∀ k < fb.layout.format.bytesPerPixel.toNat, i ≠ fb.place p.x p.y + k) :
    (fb.overlay layer).memory[i]? = fb.memory[i]? :=
  getElem?_overlay_of_unpainted hSound fun p _ _ => hOutside p

end Framebuffer

namespace Screen

/-- **What a text does to display memory.** Let the screen have a font that was accepted, and let
the first character end inside the plane. Then writing a text comes to an end without a fault, and

* as many characters are written as the font has of the text, but no more than there is room for;
* a pixel of the picture has the colour of the text if one of the characters written marks it, and
  is as it was otherwise;
* every byte that belongs to no pixel of the picture is as it was. -/
theorem drawText_marks {data : Array UInt8} {font : Font} (hLoad : Font.load data = .ok font)
    {s : Screen} (hFont : s.font = some font) (hSound : s.framebuffer.Sound) (corner : Point)
    (hx : corner.x.toNat + font.width.toNat < 1 <<< 64)
    (hy : corner.y.toNat + font.height.toNat < 1 <<< 64) (text : String) (c : Color) :
    ∃ written fb,
      (drawText corner text c).Ends s written { s with framebuffer := fb, dirty := true } ∧
      (written : ℕ∞) = min ((font.known text.toList).length : ℕ∞)
        (font.room s.framebuffer.width corner.x) ∧
      fb.layout = s.framebuffer.layout ∧ fb.memory.size = s.framebuffer.memory.size ∧
      (∀ p : Point, p.x < s.framebuffer.width → p.y < s.framebuffer.height →
        ∀ k < s.framebuffer.layout.format.bytesPerPixel.toNat,
          (font.Marks ((font.known text.toList).take written) corner p.x.toNat p.y.toNat →
            fb.memory[s.framebuffer.place p.x p.y + k]? =
              (s.framebuffer.layout.format.encode c)[k]?) ∧
          (¬font.Marks ((font.known text.toList).take written) corner p.x.toNat p.y.toNat →
            fb.memory[s.framebuffer.place p.x p.y + k]? =
              s.framebuffer.memory[s.framebuffer.place p.x p.y + k]?)) ∧
      ∀ i, (∀ p : Point, p.x < s.framebuffer.width → p.y < s.framebuffer.height →
          ∀ k < s.framebuffer.layout.format.bytesPerPixel.toNat,
            i ≠ s.framebuffer.place p.x p.y + k) →
        fb.memory[i]? = s.framebuffer.memory[i]? := by
  have hAccepted := Font.accepted_of_load hLoad
  have hInRange := inRange_of_sound hSound hAccepted.regular hx hy text.toList
  have hColours := colours_charsLayer hAccepted hInRange hy c
  refine ⟨_, _, (ends_drawText_of_font hFont).mpr
    ⟨_, lays_drawChars c hInRange s.framebuffer hSound rfl, rfl⟩,
    charsWritten_eq hAccepted hInRange, rfl, Array.size_mapIdx, fun p hLeft hAbove k hk => ?_,
    fun i hOutside => Framebuffer.getElem?_overlay_of_outside hSound _ hOutside⟩
  have hPixel := Framebuffer.getElem?_overlay_of_pixel hSound
    (charsLayer font s.framebuffer.width c text.toList corner) hLeft hAbove hk
  constructor
  · intro hMarked
    rw [(hColours p).1 hMarked] at hPixel
    exact hPixel
  · intro hUnmarked
    rw [(hColours p).2 hUnmarked] at hPixel
    exact hPixel

/-- A picture of three rows with room for two characters and a half. -/
def strip : Screen where
  framebuffer := ⟨⟨20, 3, 61, .rgb⟩, Array.replicate 183 7⟩
  font := some dashes
  background := .black
  dirty := false

theorem drawText_marks_strip :
    Font.load dashesData = .ok dashes ∧ strip.font = some dashes ∧ strip.framebuffer.Sound ∧
    (1 : Word).toNat + dashes.width.toNat < 1 <<< 64 ∧
    (1 : Word).toNat + dashes.height.toNat < 1 <<< 64 ∧
    ∃ fb, (drawText ⟨1, 1⟩ "!a##" .white).Ends strip 2
        { strip with framebuffer := fb, dirty := true } ∧
      fb.memory[strip.framebuffer.place 9 1]? = some 255 ∧
      fb.memory[strip.framebuffer.place 10 1]? = some 7 := by
  have hSound : strip.framebuffer.Sound :=
    ⟨by rw [strip, Array.size_replicate]; rfl, by rw [strip, Array.size_replicate]; decide,
      by decide⟩
  have hx : (1 : Word).toNat + dashes.width.toNat < 1 <<< 64 := by decide
  have hy : (1 : Word).toNat + dashes.height.toNat < 1 <<< 64 := by decide
  obtain ⟨written, fb, hEnds, hWritten, -, -, hPixels, -⟩ :=
    drawText_marks load_dashesData (s := strip) rfl hSound ⟨1, 1⟩ hx hy "!a##" .white
  -- the first and the second character end in the columns 9 and 17, the third one would in 25
  have hRoom : dashes.room strip.framebuffer.width 1 = 2 := by
    have hFits : {i : Nat | (1 : Word).toNat + (i + 1) * dashes.width.toNat ≤
        strip.framebuffer.width.toNat} = (Finset.range 2 : Set Nat) := by
      ext i
      rw [Finset.mem_coe, Finset.mem_range, Set.mem_ofPred_eq]
      show 1 + (i + 1) * 8 ≤ 20 ↔ i < 2
      omega
    rw [Font.room, hFits, Set.encard_coe_eq_coe_finsetCard, Finset.card_range]
    rfl
  have hKnown : dashes.known "!a##".toList = ['!', '#', '#'] := by decide
  rw [hRoom, hKnown] at hWritten
  obtain rfl : written = 2 := by
    have hMin : min ((['!', '#', '#'].length : Nat) : ℕ∞) 2 = (2 : Nat) := by decide
    rw [hMin] at hWritten
    exact Nat.cast_inj.mp hWritten
  rw [hKnown] at hPixels
  refine ⟨load_dashesData, rfl, hSound, hx, hy, fb, hEnds, ?_, ?_⟩
  · -- the left end of the second character
    have hByte : dashes.glyphs[35]? = some 0x81 := by
      rw [dashes, Array.getElem?_replicate]
      rfl
    have hInks : dashes.Inks '#' 0 0 :=
      ⟨by decide, by decide, by decide, 0x81, hByte, by decide⟩
    have hMarks : dashes.Marks (['!', '#', '#'].take 2) ⟨1, 1⟩ 9 1 :=
      ⟨1, '#', 0, 0, rfl, hInks, rfl, rfl⟩
    have hPixel := (hPixels ⟨9, 1⟩ (by decide) (by decide) 0 (by decide)).1 hMarks
    exact hPixel
  · -- the pixel next to it
    have hUnmarked : ¬dashes.Marks (['!', '#', '#'].take 2) ⟨1, 1⟩ 10 1 := by
      intro hMarks
      obtain ⟨i, char, column, row, -, hInks, hColumn, -⟩ := hMarks
      obtain ⟨byte, hByte, hBit⟩ := hInks.bit
      have hLt : column < 8 := hInks.column_lt
      obtain rfl : column = 1 := by
        have hSum : 10 = 1 + i * 8 + column := hColumn
        omega
      rw [dashes, Array.getElem?_replicate] at hByte
      split at hByte
      · cases hByte
        exact absurd hBit (by decide)
      · cases hByte
    have hPixel := (hPixels ⟨10, 1⟩ (by decide) (by decide) 0 (by decide)).2 hUnmarked
    refine hPixel.trans ?_
    rw [strip, Array.getElem?_replicate]
    rfl

end Screen

end TouchPanel
