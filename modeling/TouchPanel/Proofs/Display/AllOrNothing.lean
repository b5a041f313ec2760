import TouchPanel.Proofs.Display.Text
import TouchPanel.Proofs.Step.Respects

/-!
# Texts that fault paint nothing

Writing a text may fault, for its place may be anywhere in the plane, and a font that was read from
a file may have been given any size since. It could then leave half of the text behind. It does not:
where there is something to paint the picture is at hand, and in the picture all sums are small. A
picture has few columns and rows compared with the words, since its pixels have several bytes each,
and a file has no room for tall characters.

* `KeepsAbove`          — below the picture nothing is painted, faults or not.
* `inRange_of_fromFile` — in the picture no sum is too large once the first character has room.
* `ends_or_faults_drawChars` — so a text is written, or nothing is.
-/

namespace TouchPanel

-- ---------------------------------------------------------------------------
-- Below the picture
-- ---------------------------------------------------------------------------

namespace Framebuffer

/-- If the row `y` is below the picture, nothing is painted. -/
def KeepsAbove (y : Word) (fb fb' : Framebuffer) : Prop := fb.height ≤ y → fb' = fb

instance (y : Word) : IsPreorder Framebuffer (KeepsAbove y) where
  refl _ _ := rfl
  trans fb₁ fb₂ fb₃ hFirst hSecond hBelow := by
    obtain rfl := hFirst hBelow
    exact hSecond hBelow

theorem respects_setPixel {y row : Word} (hRow : y ≤ row) (x : Word) (c : Color) :
    (setPixel x row c).Respects (KeepsAbove y) := by
  intro fb hBelow
  have hOutside : ¬(x < fb.width ∧ row < fb.height) := by
    intro hInside
    have hAbove := hInside.2
    rw [UInt64.lt_iff_toNat_lt] at hAbove
    rw [UInt64.le_iff_toNat_le] at hRow hBelow
    omega
  rw [run_setPixel_outside c hOutside]
  rfl

end Framebuffer

namespace Screen

variable {font : Font} {corner : Point}

theorem respects_drawGlyph (bitmap : Array UInt8) (c : Color) :
    (drawGlyph font bitmap corner c).Respects (Framebuffer.KeepsAbove corner.y) := by
  refine Paint.respects_forEach fun cell _ => ?_
  refine Paint.respects_lift_bind fun x _ => ?_
  refine Paint.respects_lift_bind fun y hy => ?_
  obtain ⟨hLt, rfl⟩ := Word.addExact_eq_ok_iff.mp hy
  refine Framebuffer.respects_setPixel ?_ x c
  rw [UInt64.le_iff_toNat_le, Word.toNat_add_of_lt hLt]
  exact Nat.le_add_right _ _

/-- A text below the picture paints nothing. -/
theorem respects_drawChars (font : Font) (c : Color) (chars : List Char) (corner : Point) :
    (drawChars font c chars corner).Respects (Framebuffer.KeepsAbove corner.y) := by
  induction chars generalizing corner with
  | nil => exact Paint.respects_pure 0
  | cons char rest ih =>
    rw [drawChars]
    refine Paint.respects_lift_bind fun stop _ => ?_
    refine (Paint.respects_read _).bind fun width => ?_
    split
    · exact Paint.respects_pure 0
    · refine Paint.respects_lift_bind fun bitmap? _ => ?_
      cases bitmap? with
      | none => exact ih corner
      | some bitmap =>
        refine (respects_drawGlyph bitmap c).bind fun _ => ?_
        exact (ih ⟨stop, corner.y⟩).bind fun _ => Paint.respects_pure _

end Screen

-- ---------------------------------------------------------------------------
-- In the picture
-- ---------------------------------------------------------------------------

namespace Screen

variable {font : Font} {corner : Point} {fb : Framebuffer}

/-- In the picture a text is in range if there is a place to the right of its first character. -/
theorem inRange_of_fromFile (hSound : fb.Sound) (hFont : font.FromFile)
    (hBelow : corner.y < fb.height) (hStop : corner.x.toNat + font.width.toNat < 1 <<< 64)
    (chars : List Char) : InRange font fb.width corner chars where
  exists_glyph? := fun char _ => hFont.regular char
  right_lt := fun k _ hReached => right_lt_of_sound hSound hStop hReached
  row_lt := by
    intro hFits char _ bitmap hGlyph cell hCell
    obtain ⟨bitmap?, hBitmap, hShort⟩ := hFont.exists_glyph? char
    obtain rfl : bitmap? = some bitmap := Except.ok.inj (hBitmap.symm.trans hGlyph)
    have hSize := hShort bitmap rfl
    have hRow := Font.row_lt_of_mem_litCells hCell
    obtain ⟨hColumn, -⟩ := Font.lt_of_mem_litCells hCell
    have hHeight := hSound.height_mul_lt (by omega)
    rw [UInt64.lt_iff_toNat_lt] at hBelow
    omega

/-- **A text is written, or it faults and nothing is painted.** -/
theorem ends_or_faults_drawChars (hSound : fb.Sound) (hFont : font.FromFile) (c : Color)
    (chars : List Char) (corner : Point) :
    (∃ n fb', (drawChars font c chars corner).Ends fb n fb' ∧ fb'.Sound) ∨
      ∃ fault events, (drawChars font c chars corner).run fb = .faulted fault fb events := by
  by_cases hBelow : fb.height ≤ corner.y
  · have hKeeps := respects_drawChars font c chars corner fb hBelow
    cases hRun : (drawChars font c chars corner).run fb with
    | done n fb' events =>
      rw [hRun] at hKeeps
      obtain rfl : fb' = fb := hKeeps
      exact .inl ⟨n, fb', .of_run hRun, hSound⟩
    | faulted fault fb' events =>
      rw [hRun] at hKeeps
      obtain rfl : fb' = fb := hKeeps
      exact .inr ⟨fault, events, rfl⟩
  · by_cases hStop : corner.x.toNat + font.width.toNat < 1 <<< 64
    · left
      have hAbove : corner.y < fb.height := by
        rw [UInt64.le_iff_toNat_le, Nat.not_le] at hBelow
        exact UInt64.lt_iff_toNat_lt.mpr hBelow
      have hInRange := inRange_of_fromFile hSound hFont hAbove hStop chars
      exact ⟨_, _, lays_drawChars c hInRange fb hSound rfl, hSound.overlay _⟩
    · cases chars with
      | nil => exact .inl ⟨0, fb, Paint.ends_pure.mpr ⟨rfl, rfl⟩, hSound⟩
      | cons char rest =>
        -- the first character faults before anything is painted
        right
        rw [drawChars, Word.addExact_of_ge (Nat.not_lt.mp hStop)]
        exact ⟨.overflow .add, [], rfl⟩

end Screen

end TouchPanel
