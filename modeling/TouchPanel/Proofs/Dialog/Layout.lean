import TouchPanel.Proofs.Dialog.Places

/-!
# The layout of an accept dialog, wherever it is

An area may lie across the limit of the plane, and then the places of the children are held there
when they are moved to it. That spoils nothing, for what they lose is beyond the limit.

* `LaidOut` — the question and the buttons are inside the margins, apart from each other, and a
  padding from each other.
* `new_laidOut` — every new dialog is laid out like this, and there is one unless the margin is too
  large for a word.
-/

namespace TouchPanel

namespace AcceptDialog

-- ---------------------------------------------------------------------------
-- The layout
-- ---------------------------------------------------------------------------

/-- The areas on the screen of a question and of the two buttons. -/
def childAreas (d : AcceptDialog) (info : Label) : List Rect :=
  [info.state.globalBounds d.dialog.state.position, d.yesArea, d.noArea]

/-- The question and the buttons of a dialog are where they should be in an area. Gaps are as in the
dialog itself, where nothing is held at a limit. -/
structure LaidOut (area : Rect) (style : Style) (d : AcceptDialog) (info : Label)
    (yes no : Button) : Prop where
  question : d.infoLabel? = some info
  left : d.yesButton? = some yes
  right : d.noButton? = some no
  /-- All are inside the margins. -/
  inside : ∀ r ∈ d.childAreas info, ∀ p, r.contains p = true →
    (area.inset (style.frameThickness + style.padding)).contains p = true
  /-- No point belongs to two of them. -/
  apart : ∀ p, (d.childAreas info).Pairwise fun r r' =>
    ¬(r.contains p = true ∧ r'.contains p = true)
  size : yes.state.size = no.state.size
  row : yes.state.position.y = no.state.position.y
  /-- The columns of the gap between the buttons are those of a padding, or one more. -/
  columns : style.padding.toNat ≤ style.room area.width.toNat →
    ∃ gap, no.state.position.x.toNat =
        yes.state.position.x.toNat + yes.state.size.width.toNat + gap ∧
      (gap = style.padding.toNat ∨ gap = style.padding.toNat + 1)
  /-- The rows of the gap between the question and the buttons are those of a padding. -/
  rows : style.padding.toNat ≤
      style.room area.height.toNat - style.room area.height.toNat / 3 →
    yes.state.position.y.toNat =
      info.state.position.y.toNat + info.state.size.height.toNat + style.padding.toNat

/-- There is no dialog with a margin that is not a word. -/
theorem new_of_margin_ge {style : Style} (h : 1 <<< 64 ≤ style.margin) (area : Rect)
    (infoText yesText noText : String) :
    new area infoText yesText noText style = .error (.overflow .add) := by
  have hSum : style.frameThickness.addExact style.padding = .error (.overflow .add) :=
    Word.addExact_of_ge h
  have hWithin : Places.within area.size style = .error (.overflow .add) := by
    rw [Places.within, hSum]
    rfl
  rw [new, hWithin]
  rfl

section Places

variable {area : Rect} {style : Style} {places : Places}

/-- The points between the margins of an area. -/
theorem contains_inset_margin_iff (hMargin : style.margin < 1 <<< 64) {p : Point} :
    (area.inset (style.frameThickness + style.padding)).contains p = true ↔
      Rect.Covers (area.x.toNat + style.margin) (area.y.toNat + style.margin)
        (style.room area.width.toNat) (style.room area.height.toNat) p := by
  have hSum : (style.frameThickness + style.padding).toNat = style.margin :=
    Word.toNat_add_of_lt hMargin
  rw [Rect.contains_inset_iff, hSum]
  rfl

/-- Every place of a child is between the margins. -/
theorem Places.Laid.inside (h : places.Laid area.size style) (hMargin : style.margin < 1 <<< 64) :
    ∀ place ∈ places.all, ∀ p, (place.translate area.topLeft).contains p = true →
      (area.inset (style.frameThickness + style.padding)).contains p = true := by
  obtain ⟨hInfo, hYes, hNo⟩ := h
  have hWidth := buttonWidth_le area.size style
  have hHeight := buttonHeight_le area.size style
  have hSize : area.size.width = area.width ∧ area.size.height = area.height := ⟨rfl, rfl⟩
  rw [hSize.1] at hInfo hWidth hNo
  rw [hSize.2] at hInfo hHeight hYes hNo
  simp only [all, List.forall_mem_cons, List.not_mem_nil, false_implies, implies_true, and_true,
    contains_place_iff hInfo, contains_place_iff hYes, contains_place_iff hNo,
    contains_inset_margin_iff hMargin]
  refine ⟨fun p hCovers => ?_, fun p hCovers => ?_, fun p hCovers => ?_⟩ <;>
    obtain ⟨hLeft, hRight, hAbove, hBelow, hColumn, hRow⟩ := hCovers <;>
    constructor <;> omega

theorem childAreas_accept (places : Places) (area : Rect) (infoText yesText noText : String)
    (style : Style) :
    (places.accept area infoText yesText noText style).childAreas
        (.new places.info infoText style) =
      places.all.map fun place => place.translate area.topLeft := rfl

/-- A dialog with its children in their places is laid out. -/
theorem Places.Laid.laidOut (h : places.Laid area.size style) (hMargin : style.margin < 1 <<< 64)
    (infoText yesText noText : String) :
    LaidOut area style (places.accept area infoText yesText noText style)
      (.new places.info infoText style) (.new places.yes yesText style)
      (.new places.no noText style) where
  question := rfl
  left := rfl
  right := rfl
  inside := by
    rw [childAreas_accept]
    exact List.forall_mem_map.mpr (h.inside hMargin)
  apart := by
    rw [childAreas_accept]
    exact h.apart
  size := by
    have hWidth : places.yes.width = places.no.width := by
      rw [← UInt64.toNat_inj, h.yes.width, h.no.width]
    have hHeight : places.yes.height = places.no.height := by
      rw [← UInt64.toNat_inj, h.yes.height, h.no.height]
    show (⟨places.yes.width, places.yes.height⟩ : Size) = ⟨places.no.width, places.no.height⟩
    rw [hWidth, hHeight]
  row := by
    show places.yes.y = places.no.y
    rw [← UInt64.toNat_inj, h.yes.y, h.no.y]
  columns hPadding := by
    show ∃ gap, places.no.x.toNat = places.yes.x.toNat + places.yes.width.toNat + gap ∧ _
    have hRoom : area.size.width = area.width := rfl
    rw [h.no.x, h.yes.x, h.yes.width, buttonWidth, hRoom]
    -- half of an odd number of columns leaves one column over
    refine ⟨style.room area.width.toNat -
      2 * ((style.room area.width.toNat - style.padding.toNat) / 2), by omega, by omega⟩
  rows hPadding := by
    show places.yes.y.toNat = places.info.y.toNat + places.info.height.toNat + _
    have hRoom : area.size.height = area.height := rfl
    rw [h.yes.y, h.info.y, h.info.height, buttonHeight, hRoom]
    omega

end Places

/-- **The layout of new dialogs.** Whatever the area, the texts and the style, there is a dialog
unless the border and the padding come to more than a word. The question and the buttons of the
dialog lie between the margins of the area on the screen, no two of them share a point, and the
buttons are of one size and side by side, a padding below the question and a padding from each other
wherever there is room for a padding. -/
theorem new_laidOut (area : Rect) (infoText yesText noText : String) (style : Style) :
    ((∃ fault, new area infoText yesText noText style = .error fault) ↔
      1 <<< 64 ≤ style.frameThickness.toNat + style.padding.toNat) ∧
    (style.frameThickness.toNat + style.padding.toNat < 1 <<< 64 →
      ∃ d info yes no, new area infoText yesText noText style = .ok d ∧
        LaidOut area style d info yes no) := by
  by_cases hMargin : style.margin < 1 <<< 64
  · obtain ⟨places, hLaid, hNew⟩ := exists_new area infoText yesText noText hMargin
    refine ⟨iff_of_false ?_ (Nat.not_le.mpr hMargin), fun _ => ?_⟩
    · rw [hNew]
      rintro ⟨fault, ⟨⟩⟩
    · exact ⟨_, _, _, _, hNew, hLaid.laidOut hMargin infoText yesText noText⟩
  · have hNew := new_of_margin_ge (Nat.not_lt.mp hMargin) area infoText yesText noText
    exact ⟨iff_of_true ⟨_, hNew⟩ (Nat.not_lt.mp hMargin), fun h => absurd h hMargin⟩

/-- An area of which the right half is beyond the limit of the plane. -/
def atTheLimit : Rect := ⟨Word.top - 120, 60, 240, 121⟩

theorem new_laidOut_atTheLimit :
    Style.standard.frameThickness.toNat + Style.standard.padding.toNat < 1 <<< 64 ∧
    ∃ d info yes no, new atTheLimit "Save?" "Yes" "No" .standard = .ok d ∧
      LaidOut atTheLimit .standard d info yes no :=
  ⟨by decide, (new_laidOut atTheLimit "Save?" "Yes" "No" .standard).2 (by decide)⟩

end AcceptDialog

end TouchPanel
