import TouchPanel.Display.Screen
import TouchPanel.Proofs.Display.Layer
import TouchPanel.Proofs.Font

/-!
# Texts as layers

A text is painted glyph by glyph, and a glyph cell by cell. In an accepted font every character
has a bitmap or none, without a fault, and no lit cell lies outside the character; so a text keeps
to the area that its size promises.

* `InRange`           — no sum that writing a text comes to is too large.
* `lays_drawChars`    — writing such a text lays its layer.
* `within_charsLayer` — the layer keeps to the area of the text.
-/

namespace TouchPanel

-- ---------------------------------------------------------------------------
-- Glyphs and texts
-- ---------------------------------------------------------------------------

namespace Screen

/-- The lit cells of a bitmap whose upper left corner is at a point. -/
def glyphLayer (font : Font) (bitmap : Array UInt8) (corner : Point) (c : Color) : Layer :=
  Layer.stack ((font.litCells bitmap).map fun cell =>
    .fill (· == ⟨corner.x + cell.x, corner.y + cell.y⟩) c)

/-- The characters of a text, from left to right until one does not fit `width` columns. -/
def charsLayer (font : Font) (width : Word) (c : Color) : List Char → Point → Layer
  | [], _ => .empty
  | char :: rest, corner =>
      if width < corner.x + font.width then .empty
      else
        match font.glyph? char with
        | .ok (some bitmap) =>
            (charsLayer font width c rest ⟨corner.x + font.width, corner.y⟩).onto
              (glyphLayer font bitmap corner c)
        | _ => charsLayer font width c rest corner

/-- The number of characters that are written on `width` columns. -/
def charsWritten (font : Font) (width : Word) : List Char → Point → Nat
  | [], _ => 0
  | char :: rest, corner =>
      if width < corner.x + font.width then 0
      else
        match font.glyph? char with
        | .ok (some _) => charsWritten font width rest ⟨corner.x + font.width, corner.y⟩ + 1
        | _ => charsWritten font width rest corner

/-- Every sum that writing a text on `width` columns comes to is a word. A character past the first
one is only reached if those before it fit the columns, and is only painted if it fits itself. -/
structure InRange (font : Font) (width : Word) (corner : Point) (chars : List Char) : Prop where
  exists_glyph? : ∀ char ∈ chars, ∃ bitmap?, font.glyph? char = .ok bitmap?
  right_lt : ∀ k < chars.length,
    k = 0 ∨ corner.x.toNat + k * font.width.toNat ≤ width.toNat →
      corner.x.toNat + (k + 1) * font.width.toNat < 1 <<< 64
  row_lt : font.width.toNat ≤ width.toNat → ∀ char ∈ chars, ∀ bitmap,
    font.glyph? char = .ok (some bitmap) → ∀ cell ∈ font.litCells bitmap,
      corner.y.toNat + cell.y.toNat < 1 <<< 64

section InRange

variable {font : Font} {width : Word} {corner : Point} {char : Char} {rest : List Char}

theorem InRange.stop_lt (h : InRange font width corner (char :: rest)) :
    corner.x.toNat + font.width.toNat < 1 <<< 64 := by
  have hFirst := h.right_lt 0 (Nat.zero_lt_succ _) (.inl rfl)
  rwa [Nat.zero_add, Nat.one_mul] at hFirst

/-- A text remains in range when a character without a bitmap is skipped. -/
theorem InRange.skip (h : InRange font width corner (char :: rest)) :
    InRange font width corner rest where
  exists_glyph? := fun other hOther => h.exists_glyph? other (List.mem_cons_of_mem _ hOther)
  right_lt := fun k hk => h.right_lt k (Nat.lt_succ_of_lt hk)
  row_lt := fun hFits other hOther => h.row_lt hFits other (List.mem_cons_of_mem _ hOther)

/-- A text remains in range when a character that fits the columns was painted. -/
theorem InRange.advance (h : InRange font width corner (char :: rest))
    (hFits : corner.x.toNat + font.width.toNat ≤ width.toNat) :
    InRange font width ⟨corner.x + font.width, corner.y⟩ rest where
  exists_glyph? := h.skip.exists_glyph?
  right_lt := by
    intro k hk hReached
    have hNext : (corner.x + font.width).toNat = corner.x.toNat + font.width.toNat :=
      Word.toNat_add_of_lt h.stop_lt
    simp only [hNext] at hReached ⊢
    have hBefore : corner.x.toNat + (k + 1) * font.width.toNat ≤ width.toNat := by
      rw [Nat.succ_mul]
      rcases hReached with rfl | hReached <;> omega
    have hStop := h.right_lt (k + 1) (Nat.succ_lt_succ hk) (.inr hBefore)
    rw [Nat.succ_mul] at hStop
    omega
  row_lt := h.skip.row_lt

/-- A text that ends inside the plane is in range, if the font is regular. -/
theorem inRange_of_regular (hRegular : font.Regular) {chars : List Char}
    (hx : corner.x.toNat + chars.length * font.width.toNat < 1 <<< 64)
    (hy : corner.y.toNat + font.height.toNat < 1 <<< 64) : InRange font width corner chars where
  exists_glyph? := fun char _ => hRegular char
  right_lt := by
    intro k hk _
    have hLe : (k + 1) * font.width.toNat ≤ chars.length * font.width.toNat :=
      Nat.mul_le_mul_right _ hk
    omega
  row_lt := by
    intro _ _ _ bitmap _ cell hCell
    obtain ⟨-, hRow⟩ := Font.lt_of_mem_litCells hCell
    omega

/-- In a picture a character ends inside the plane if the first one does. -/
theorem right_lt_of_sound {fb : Framebuffer} (hSound : fb.Sound)
    (hStop : corner.x.toNat + font.width.toNat < 1 <<< 64) {k : Nat}
    (hReached : k = 0 ∨ corner.x.toNat + k * font.width.toNat ≤ fb.width.toNat) :
    corner.x.toNat + (k + 1) * font.width.toNat < 1 <<< 64 := by
  rw [Nat.succ_mul]
  rcases hReached with rfl | hReached
  · omega
  · -- the characters before take up some of the columns, so this one is no wider than the picture
    have hWidth := hSound.width_mul_lt
    cases k with
    | zero => omega
    | succ k =>
      rw [Nat.succ_mul] at hReached ⊢
      omega

/-- In a picture a text is in range if its first character ends inside the plane. -/
theorem inRange_of_sound {fb : Framebuffer} (hSound : fb.Sound) (hRegular : font.Regular)
    (hx : corner.x.toNat + font.width.toNat < 1 <<< 64)
    (hy : corner.y.toNat + font.height.toNat < 1 <<< 64) (chars : List Char) :
    InRange font fb.width corner chars where
  exists_glyph? := fun char _ => hRegular char
  right_lt := fun k _ hReached => right_lt_of_sound hSound hx hReached
  row_lt := by
    intro _ _ _ bitmap _ cell hCell
    obtain ⟨-, hRow⟩ := Font.lt_of_mem_litCells hCell
    omega

end InRange

section Lays

variable {layout : DisplayLayout} {font : Font} {corner : Point}

/-- Painting a glyph is laying its cells, if they are in the plane. -/
theorem lays_drawGlyph {bitmap : Array UInt8}
    (h : ∀ cell ∈ font.litCells bitmap, corner.x.toNat + cell.x.toNat < 1 <<< 64 ∧
      corner.y.toNat + cell.y.toNat < 1 <<< 64) (c : Color) :
    Framebuffer.Lays layout (drawGlyph font bitmap corner c) ()
      (glyphLayer font bitmap corner c) := by
  refine Framebuffer.lays_forEach fun cell hCell => ?_
  obtain ⟨hColumn, hRow⟩ := h cell hCell
  refine Framebuffer.Lays.bind_empty (Framebuffer.lays_lift (Word.addExact_of_lt hColumn)) ?_
  refine Framebuffer.Lays.bind_empty (Framebuffer.lays_lift (Word.addExact_of_lt hRow)) ?_
  exact Framebuffer.lays_setPixel layout ⟨corner.x + cell.x, corner.y + cell.y⟩ c

/-- Writing a text is laying its characters, if it is in range. -/
theorem lays_drawChars (c : Color) {chars : List Char}
    (h : InRange font layout.width corner chars) :
    Framebuffer.Lays layout (drawChars font c chars corner)
      (charsWritten font layout.width chars corner)
      (charsLayer font layout.width c chars corner) := by
  induction chars generalizing corner with
  | nil => exact Framebuffer.lays_pure 0
  | cons char rest ih =>
    have hNext : (corner.x + font.width).toNat = corner.x.toNat + font.width.toNat :=
      Word.toNat_add_of_lt h.stop_lt
    have hWidth : Framebuffer.Lays layout (Paint.read Framebuffer.width) layout.width .empty :=
      Framebuffer.lays_read fun fb hLayout => by rw [Framebuffer.width, hLayout]
    obtain ⟨bitmap?, hBitmap⟩ := h.exists_glyph? char List.mem_cons_self
    rw [charsWritten, charsLayer, hBitmap, drawChars]
    refine Framebuffer.Lays.bind_empty
      (Framebuffer.lays_lift (Word.addExact_of_lt h.stop_lt)) ?_
    refine Framebuffer.Lays.bind_empty hWidth ?_
    by_cases hEnd : layout.width < corner.x + font.width
    · -- the character does not fit the picture
      rw [if_pos hEnd, if_pos hEnd, if_pos hEnd]
      exact Framebuffer.lays_pure 0
    · rw [if_neg hEnd, if_neg hEnd, if_neg hEnd]
      rw [UInt64.lt_iff_toNat_lt, hNext, Nat.not_lt] at hEnd
      refine Framebuffer.Lays.bind_empty (Framebuffer.lays_lift hBitmap) ?_
      cases bitmap? with
      | none => exact ih h.skip
      | some bitmap =>
        refine Framebuffer.Lays.bind (lays_drawGlyph (fun cell hCell => ⟨?_, ?_⟩) c) ?_
        · have hStop := h.stop_lt
          obtain ⟨hColumn, -⟩ := Font.lt_of_mem_litCells hCell
          omega
        · exact h.row_lt (by omega) char List.mem_cons_self bitmap hBitmap cell hCell
        · exact (ih (h.advance hEnd)).bind_pure (· + 1)

theorem within_glyphLayer {area : Rect} {bitmap : Array UInt8} {c : Color}
    (hx : area.x.toNat + area.width.toNat < 1 <<< 64)
    (hy : area.y.toNat + area.height.toNat < 1 <<< 64)
    (hLeft : area.x.toNat ≤ corner.x.toNat)
    (hRight : corner.x.toNat + font.width.toNat ≤ area.x.toNat + area.width.toNat)
    (hTop : area.y.toNat ≤ corner.y.toNat)
    (hBottom : corner.y.toNat + font.height.toNat ≤ area.y.toNat + area.height.toNat) :
    (glyphLayer font bitmap corner c).Within area := by
  refine Layer.within_stack fun layer hLayer => ?_
  obtain ⟨cell, hCell, rfl⟩ := List.mem_map.mp hLayer
  obtain ⟨hColumn, hRow⟩ := Font.lt_of_mem_litCells hCell
  refine Layer.within_fill fun p hp => ?_
  obtain rfl := beq_iff_eq.mp hp
  rw [Rect.contains_iff, Rect.toNat_right, Rect.toNat_bottom,
    Word.toNat_add_of_lt (show corner.x.toNat + cell.x.toNat < 1 <<< 64 by omega),
    Word.toNat_add_of_lt (show corner.y.toNat + cell.y.toNat < 1 <<< 64 by omega)]
  omega

/-- A text keeps to an area that has room for it. -/
theorem within_charsLayer {area : Rect} {chars : List Char} {width : Word} {c : Color}
    (hx : area.x.toNat + area.width.toNat < 1 <<< 64)
    (hy : area.y.toNat + area.height.toNat < 1 <<< 64)
    (hLeft : area.x.toNat ≤ corner.x.toNat)
    (hRight : corner.x.toNat + chars.length * font.width.toNat ≤
      area.x.toNat + area.width.toNat)
    (hTop : area.y.toNat ≤ corner.y.toNat)
    (hBottom : corner.y.toNat + font.height.toNat ≤ area.y.toNat + area.height.toNat) :
    (charsLayer font width c chars corner).Within area := by
  induction chars generalizing corner with
  | nil => exact Layer.within_empty area
  | cons char rest ih =>
    rw [List.length_cons, Nat.succ_mul] at hRight
    have hNext : (corner.x + font.width).toNat = corner.x.toNat + font.width.toNat :=
      Word.toNat_add_of_lt (by omega)
    rw [charsLayer]
    split
    · exact Layer.within_empty area
    · split
      · rename_i bitmap _
        refine Layer.Within.onto (ih ?_ ?_ hTop hBottom) ?_
        · simp only [hNext]
          omega
        · simp only [hNext]
          omega
        · exact within_glyphLayer hx hy hLeft (by omega) hTop hBottom
      · exact ih hLeft (by omega) hTop hBottom

end Lays

end Screen

-- ---------------------------------------------------------------------------
-- A font
-- ---------------------------------------------------------------------------

/-- The bytes of a font with 36 characters of one row, the ends of which are lit. -/
def dashesData : Array UInt8 :=
  #[0x72, 0xb5, 0x4a, 0x86, 0, 0, 0, 0, 32, 0, 0, 0, 0, 0, 0, 0, 36, 0, 0, 0, 1, 0, 0, 0,
    1, 0, 0, 0, 8, 0, 0, 0] ++ Array.replicate 36 0x81

def dashes : Font where
  version := .v2
  width := 8
  height := 1
  glyphCount := 36
  bytesPerGlyph := 1
  glyphs := Array.replicate 36 0x81

theorem load_dashesData : Font.load dashesData = .ok dashes := by
  have hLoaded : (Font.load dashesData).toOption = some dashes := by
    decide +kernel
  cases hLoad : Font.load dashesData with
  | ok font =>
    rw [hLoad] at hLoaded
    exact congrArg Except.ok (Option.some.inj hLoaded)
  | error error =>
    rw [hLoad] at hLoaded
    cases hLoaded

end TouchPanel
