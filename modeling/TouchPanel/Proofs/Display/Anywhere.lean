import TouchPanel.Proofs.Display.TextPixels

/-!
# Drawing anywhere in the plane

A place in the plane is held at its limit when widgets are moved, so anything may be drawn at the
limit. Rectangles, frames and clearing are clipped to the picture wherever they are. A text is not:
the sums for its characters and for their cells are exact, and they are made before a character is
compared with the width of the picture and before a cell is clipped.

* `StaysInPlane`       — no sum that a text comes to is too large.
* `ends_drawChars_iff` — exactly these texts are written.
* `ends_anywhere_iff`  — so a screen draws everything but the other texts.
-/

namespace TouchPanel

namespace Paint

variable {σ α β : Type} {s t : σ} {a : α} {b : β}

theorem ends_lift_bind {x : Except Fault α} (h : x = .ok a) {f : α → Paint σ β} :
    (lift x >>= f).Ends s b t ↔ (f a).Ends s b t := by
  rw [h]
  simp only [ends_bind, ends_lift]
  constructor
  · intro hEnds
    obtain ⟨_, _, ⟨hValue, rfl⟩, hRest⟩ := hEnds
    obtain rfl := Except.ok.inj hValue
    exact hRest
  · intro hRest
    exact ⟨a, s, ⟨rfl, rfl⟩, hRest⟩

theorem ends_read_bind {look : σ → α} {f : α → Paint σ β} :
    (read look >>= f).Ends s b t ↔ (f (look s)).Ends s b t := by
  simp only [ends_bind, ends_read]
  constructor
  · intro hEnds
    obtain ⟨_, _, ⟨rfl, rfl⟩, hRest⟩ := hEnds
    exact hRest
  · intro hRest
    exact ⟨_, s, ⟨rfl, rfl⟩, hRest⟩

end Paint

namespace Screen

variable {font : Font} {width : Word} {corner : Point} {char : Char} {chars rest : List Char}

-- ---------------------------------------------------------------------------
-- Texts that stay in the plane
-- ---------------------------------------------------------------------------

/-- No sum that writing a text on `width` columns comes to is too large. The first character has its
right edge in the plane, if there is one; and so have the rows in which those characters have set
cells that end within the columns. -/
structure StaysInPlane (font : Font) (width : Word) (corner : Point) (chars : List Char) :
    Prop where
  stop_lt : chars ≠ [] → corner.x.toNat + font.width.toNat < 1 <<< 64
  row_lt : ∀ (i : Nat) (char : Char), (font.known chars)[i]? = some char →
    corner.x.toNat + (i + 1) * font.width.toNat ≤ width.toNat →
      ∀ column row, font.Inks char column row → corner.y.toNat + row < 1 <<< 64

theorem staysInPlane_nil : StaysInPlane font width corner [] :=
  ⟨fun h => absurd rfl h, nofun⟩

/-- Past the last column nothing is written. -/
theorem staysInPlane_of_past (hStop : corner.x.toNat + font.width.toNat < 1 <<< 64)
    (hPast : width.toNat < corner.x.toNat + font.width.toNat) :
    StaysInPlane font width corner chars where
  stop_lt _ := hStop
  row_lt i _ _ hFits := by
    rw [Nat.succ_mul] at hFits
    omega

theorem staysInPlane_cons_of_unknown (hStop : corner.x.toNat + font.width.toNat < 1 <<< 64)
    (hUnknown : ¬char.toNat < font.glyphCount.toNat) :
    StaysInPlane font width corner (char :: rest) ↔ StaysInPlane font width corner rest := by
  have hSkip : font.known (char :: rest) = font.known rest :=
    List.filter_cons_of_neg (mt of_decide_eq_true hUnknown)
  constructor
  · intro h
    refine ⟨fun _ => hStop, ?_⟩
    rw [← hSkip]
    exact h.row_lt
  · intro h
    refine ⟨fun _ => hStop, ?_⟩
    rw [hSkip]
    exact h.row_lt

theorem staysInPlane_cons_of_known (hStop : corner.x.toNat + font.width.toNat < 1 <<< 64)
    (hFits : corner.x.toNat + font.width.toNat ≤ width.toNat) (hWidth : width.toNat * 3 < 1 <<< 64)
    (hKnown : char.toNat < font.glyphCount.toNat) :
    StaysInPlane font width corner (char :: rest) ↔
      (∀ column row, font.Inks char column row → corner.y.toNat + row < 1 <<< 64) ∧
        StaysInPlane font width ⟨corner.x + font.width, corner.y⟩ rest := by
  have hCons : font.known (char :: rest) = char :: font.known rest :=
    List.filter_cons_of_pos (decide_eq_true hKnown)
  have hNext : (corner.x + font.width).toNat = corner.x.toNat + font.width.toNat :=
    Word.toNat_add_of_lt hStop
  constructor
  · intro h
    refine ⟨h.row_lt 0 char (by rw [hCons]; rfl) (by omega), fun _ => ?_, fun i other hOther hEnd => ?_⟩
    · simp only [hNext]
      omega
    · simp only [hNext] at hEnd
      refine h.row_lt (i + 1) other (by rw [hCons]; exact hOther) ?_
      rw [Nat.succ_mul]
      omega
  · intro h
    obtain ⟨hFirst, hRest⟩ := h
    refine ⟨fun _ => hStop, fun i other hOther hEnd => ?_⟩
    rw [hCons] at hOther
    rcases i with - | i
    · obtain rfl := Option.some.inj hOther
      exact hFirst
    · refine hRest.row_lt i other hOther ?_
      rw [Nat.succ_mul] at hEnd
      simp only [hNext]
      omega

-- ---------------------------------------------------------------------------
-- Writing
-- ---------------------------------------------------------------------------

section Writing

variable {fb fb' : Framebuffer} {c : Color} {n : Nat}

/-- A glyph is painted if all of its cells are in the plane, and not otherwise. -/
theorem ends_drawGlyph_iff (hSound : fb.Sound) {bitmap : Array UInt8} :
    (drawGlyph font bitmap corner c).Ends fb () fb' ↔
      (∀ cell ∈ font.litCells bitmap, corner.x.toNat + cell.x.toNat < 1 <<< 64 ∧
        corner.y.toNat + cell.y.toNat < 1 <<< 64) ∧
      fb' = fb.overlay (glyphLayer font bitmap corner c) := by
  constructor
  · intro hEnds
    have hCells : ∀ cell ∈ font.litCells bitmap, corner.x.toNat + cell.x.toNat < 1 <<< 64 ∧
        corner.y.toNat + cell.y.toNat < 1 <<< 64 := by
      intro cell hCell
      obtain ⟨v, w, hOne⟩ := Paint.exists_ends_of_ends_forEach hEnds hCell
      simp only [Paint.liftM_eq_lift, Paint.ends_bind, Paint.ends_lift] at hOne
      obtain ⟨x, _, ⟨hx, -⟩, y, _, ⟨hy, -⟩, -⟩ := hOne
      exact ⟨(Word.addExact_eq_ok_iff.mp hx).1, (Word.addExact_eq_ok_iff.mp hy).1⟩
    exact ⟨hCells, ((lays_drawGlyph hCells c fb hSound rfl).unique hEnds).2⟩
  · intro hParts
    obtain ⟨hCells, rfl⟩ := hParts
    exact lays_drawGlyph hCells c fb hSound rfl

/-- In the picture only the rows of a character can be outside the plane. -/
theorem cells_in_plane_iff (hFont : font.Accepted) (hKnown : char.toNat < font.glyphCount.toNat)
    (hStop : corner.x.toNat + font.width.toNat < 1 <<< 64) :
    (∀ cell ∈ font.litCells (font.glyphs.extract (char.toNat * font.bytesPerGlyph.toNat)
        ((char.toNat + 1) * font.bytesPerGlyph.toNat)),
      corner.x.toNat + cell.x.toNat < 1 <<< 64 ∧ corner.y.toNat + cell.y.toNat < 1 <<< 64) ↔
    ∀ column row, font.Inks char column row → corner.y.toNat + row < 1 <<< 64 := by
  simp only [hFont.mem_litCells_iff_inks hKnown]
  constructor
  · intro h column row hInks
    have hCell := h ⟨UInt64.ofNat column, UInt64.ofNat row⟩
      (by rwa [hInks.toNat_column, hInks.toNat_row])
    rw [hInks.toNat_row] at hCell
    exact hCell.2
  · intro h cell hInks
    have hColumn := hInks.column_lt
    exact ⟨by omega, h _ _ hInks⟩

/-- Nothing is written past the last column. -/
theorem ends_drawChars_of_past (hStop : corner.x.toNat + font.width.toNat < 1 <<< 64)
    (hPast : fb.width < corner.x + font.width) :
    (drawChars font c (char :: rest) corner).Ends fb n fb' ↔ n = 0 ∧ fb' = fb := by
  rw [drawChars, Paint.liftM_eq_lift, Paint.ends_lift_bind (Word.addExact_of_lt hStop),
    Paint.ends_read_bind, if_pos hPast]
  exact Paint.ends_pure

/-- A character that the font does not have is skipped. -/
theorem ends_drawChars_of_unknown (hStop : corner.x.toNat + font.width.toNat < 1 <<< 64)
    (hFits : ¬fb.width < corner.x + font.width) (hUnknown : font.glyph? char = .ok none) :
    (drawChars font c (char :: rest) corner).Ends fb n fb' ↔
      (drawChars font c rest corner).Ends fb n fb' := by
  rw [drawChars, Paint.liftM_eq_lift, Paint.ends_lift_bind (Word.addExact_of_lt hStop),
    Paint.ends_read_bind, if_neg hFits, Paint.liftM_eq_lift, Paint.ends_lift_bind hUnknown]

/-- A character is painted, and then the rest is written. -/
theorem ends_drawChars_of_known (hStop : corner.x.toNat + font.width.toNat < 1 <<< 64)
    (hFits : ¬fb.width < corner.x + font.width) {bitmap : Array UInt8}
    (hKnown : font.glyph? char = .ok (some bitmap)) :
    (drawChars font c (char :: rest) corner).Ends fb n fb' ↔
      ∃ painted m, (drawGlyph font bitmap corner c).Ends fb () painted ∧
        (drawChars font c rest ⟨corner.x + font.width, corner.y⟩).Ends painted m fb' ∧
        n = m + 1 := by
  rw [drawChars, Paint.liftM_eq_lift, Paint.ends_lift_bind (Word.addExact_of_lt hStop),
    Paint.ends_read_bind, if_neg hFits, Paint.liftM_eq_lift, Paint.ends_lift_bind hKnown]
  simp only [Paint.ends_bind, Paint.ends_pure]
  constructor
  · intro hEnds
    obtain ⟨_, painted, hGlyph, m, _, hRest, rfl, rfl⟩ := hEnds
    exact ⟨painted, m, hGlyph, hRest, rfl⟩
  · intro hParts
    obtain ⟨painted, m, hGlyph, hRest, rfl⟩ := hParts
    exact ⟨(), painted, hGlyph, m, fb', hRest, rfl, rfl⟩

/-- **Which texts are written.** Writing a text ends if and only if the text stays in the plane. -/
theorem ends_drawChars_iff (hFont : font.Accepted) (hSound : fb.Sound) :
    (drawChars font c chars corner).Ends fb n fb' ↔
      StaysInPlane font fb.width corner chars ∧ n = charsWritten font fb.width chars corner ∧
        fb' = fb.overlay (charsLayer font fb.width c chars corner) := by
  induction chars generalizing fb corner n with
  | nil =>
    rw [drawChars, charsLayer, Framebuffer.overlay_empty, Paint.ends_pure]
    exact ⟨fun h => ⟨staysInPlane_nil, h⟩, fun h => h.2⟩
  | cons char rest ih =>
    by_cases hStop : corner.x.toNat + font.width.toNat < 1 <<< 64
    · have hNext : (corner.x + font.width).toNat = corner.x.toNat + font.width.toNat :=
        Word.toNat_add_of_lt hStop
      rw [charsWritten, charsLayer]
      by_cases hPast : fb.width < corner.x + font.width
      · rw [ends_drawChars_of_past hStop hPast, if_pos hPast, if_pos hPast,
          Framebuffer.overlay_empty]
        rw [UInt64.lt_iff_toNat_lt, hNext] at hPast
        exact ⟨fun h => ⟨staysInPlane_of_past hStop hPast, h⟩, fun h => h.2⟩
      · rw [if_neg hPast, if_neg hPast]
        have hGlyph := hFont.glyph?_eq char
        by_cases hKnown : char.toNat < font.glyphCount.toNat
        · rw [if_pos hKnown] at hGlyph
          have hFits : corner.x.toNat + font.width.toNat ≤ fb.width.toNat := by
            rw [UInt64.lt_iff_toNat_lt, hNext] at hPast
            omega
          rw [ends_drawChars_of_known hStop hPast hGlyph,
            staysInPlane_cons_of_known hStop hFits hSound.width_mul_lt hKnown]
          simp only [hGlyph, ends_drawGlyph_iff hSound, cells_in_plane_iff hFont hKnown hStop,
            ← Framebuffer.overlay_overlay]
          constructor
          · intro hEnds
            obtain ⟨_, m, ⟨hRows, rfl⟩, hRest, rfl⟩ := hEnds
            obtain ⟨hStays, rfl, rfl⟩ := (ih (hSound.overlay _)).mp hRest
            exact ⟨⟨hRows, hStays⟩, rfl, rfl⟩
          · intro hParts
            obtain ⟨⟨hRows, hStays⟩, rfl, rfl⟩ := hParts
            exact ⟨_, _, ⟨hRows, rfl⟩, (ih (hSound.overlay _)).mpr ⟨hStays, rfl, rfl⟩, rfl⟩
        · rw [if_neg hKnown] at hGlyph
          rw [ends_drawChars_of_unknown hStop hPast hGlyph,
            staysInPlane_cons_of_unknown hStop hKnown, ih hSound, hGlyph]
    · -- the first sum is too large already
      refine iff_of_false (fun hEnds => ?_) fun hParts => ?_
      · rw [drawChars, Word.addExact_of_ge (Nat.not_lt.mp hStop), Paint.ends_bind] at hEnds
        obtain ⟨stop, _, hFault, -⟩ := hEnds
        cases (Paint.ends_lift.mp hFault).1
      · exact hStop (hParts.1.stop_lt (List.cons_ne_nil _ _))

end Writing

/-- **What can be drawn anywhere.** On a screen over memory of the right size, with any font that
was accepted or none, rectangles, frames and clearing always come to an end, and so does a text
without a font. With a font a text does if and only if it stays in the plane. What comes to an end
has coloured the pixels of the picture that it covers, and the rest of the memory is as it was. -/
theorem ends_anywhere_iff {s : Screen} (hSound : s.framebuffer.Sound)
    (hFont : ∀ font ∈ s.font, ∃ data, Font.load data = .ok font) (c : Color) :
    (∀ rect, (drawRect rect c).Ends s ()
      { s with framebuffer := s.framebuffer.overlay (.fill rect.contains c), dirty := true }) ∧
    (∀ rect thickness, (drawFrame rect thickness c).Ends s ()
      { s with
        framebuffer := s.framebuffer.overlay (Framebuffer.border rect thickness c)
        dirty := true }) ∧
    clear.Ends s ()
      { s with
        framebuffer := s.framebuffer.overlay (.fill s.bounds.contains s.background)
        dirty := true } ∧
    ∀ corner text,
      (s.font = none → (drawText corner text c).Ends s 0 s) ∧
      ∀ font, s.font = some font → ∀ n t, (drawText corner text c).Ends s n t ↔
        StaysInPlane font s.framebuffer.width corner text.toList ∧
          n = charsWritten font s.framebuffer.width text.toList corner ∧
          t = { s with
            framebuffer := s.framebuffer.overlay
              (charsLayer font s.framebuffer.width c text.toList corner)
            dirty := true } := by
  refine ⟨fun rect => ?_, fun rect thickness => ?_, ?_, fun corner text => ⟨fun hNone => ?_,
    fun font hSome n t => ?_⟩⟩
  · exact ends_painted.mpr ⟨_, Framebuffer.lays_fillRect _ rect c s.framebuffer hSound rfl, rfl⟩
  · exact ends_painted.mpr
      ⟨_, Framebuffer.lays_drawFrame _ rect thickness c s.framebuffer hSound rfl, rfl⟩
  · rw [clear, Paint.ends_read_bind]
    refine ends_painted.mpr ⟨_, ?_, rfl⟩
    rw [Framebuffer.clear, Paint.ends_read_bind]
    exact Framebuffer.lays_fillRect _ s.bounds s.background s.framebuffer hSound rfl
  · exact (ends_drawText_of_no_font hNone).mpr ⟨rfl, rfl⟩
  · obtain ⟨data, hLoad⟩ := hFont font hSome
    rw [ends_drawText_of_font hSome]
    simp only [ends_drawChars_iff (Font.accepted_of_load hLoad) hSound]
    constructor
    · intro hEnds
      obtain ⟨_, ⟨hStays, rfl, rfl⟩, rfl⟩ := hEnds
      exact ⟨hStays, rfl, rfl⟩
    · intro hParts
      obtain ⟨hStays, rfl, rfl⟩ := hParts
      exact ⟨_, ⟨hStays, rfl, rfl⟩, rfl⟩

theorem sound_strip : strip.framebuffer.Sound :=
  ⟨by rw [strip, Array.size_replicate]; rfl, by rw [strip, Array.size_replicate]; decide, by decide⟩

/-- At the lower limit of the plane a text of one row is written. At the right limit none is. -/
theorem ends_anywhere_iff_strip :
    strip.framebuffer.Sound ∧ (∀ font ∈ strip.font, ∃ data, Font.load data = .ok font) ∧
    (∃ t, (drawRect ⟨.top, .top, .top, .top⟩ .white).Ends strip () t) ∧
    (∃ t, (drawText ⟨0, .top⟩ "!" .white).Ends strip 1 t) ∧
    ∀ n t, ¬(drawText ⟨.top, 0⟩ "!" .white).Ends strip n t := by
  have hFont : ∀ font ∈ strip.font, ∃ data, Font.load data = .ok font := by
    intro font hSome
    obtain rfl := Option.some.inj hSome
    exact ⟨dashesData, load_dashesData⟩
  obtain ⟨hRect, -, -, hText⟩ := ends_anywhere_iff sound_strip hFont .white
  have hStays : StaysInPlane dashes strip.framebuffer.width ⟨0, .top⟩ "!".toList := by
    refine ⟨fun _ => by decide, fun i char _ _ column row hInks => ?_⟩
    have hRow : row < 1 := hInks.row_lt
    show 0xFFFFFFFFFFFFFFFF + row < 1 <<< 64
    omega
  refine ⟨sound_strip, hFont, ⟨_, hRect _⟩, ⟨_, ((hText ⟨0, .top⟩ "!").2 dashes rfl 1 _).mpr
    ⟨hStays, by decide +kernel, rfl⟩⟩, fun n t hEnds => ?_⟩
  have hStop := (((hText ⟨.top, 0⟩ "!").2 dashes rfl n t).mp hEnds).1.stop_lt (by decide)
  exact absurd hStop (by decide)

/-- Past the right edge of the picture, at the limit of the plane, a text faults. -/
theorem drawText_faults_strip :
    strip.framebuffer.Sound ∧ strip.font = some dashes ∧ Font.load dashesData = .ok dashes ∧
    (drawText ⟨.top, 0⟩ "!" .white).run strip = .faulted (.overflow .add) strip [] :=
  ⟨sound_strip, rfl, load_dashesData, rfl⟩

end Screen

end TouchPanel
