import TouchPanel.Dialog.Accept
import TouchPanel.Proofs.Assembly.Dialog
import TouchPanel.Proofs.Geometry

/-!
# Where the children of an accept dialog are

The border and the padding take a margin from every side of an accept dialog, and the children share
the room between them. If the margins meet, there is no room: the children have places then as well,
but these are empty and may lie outside of the dialog.

* `Places.Laid` — the places of the children, in numbers.
* `Places.exists_within` — they are computed without an overflow.
* `new_of_within` — what the additions and the bindings of a new dialog come to: none is refused.
* `Rect.FitsInto` — a place is empty or inside of the dialog, which is all that is needed to move it
  to the place of the dialog on the screen.
* `exists_layout` — the usual area on a screen.
-/

namespace TouchPanel

-- ---------------------------------------------------------------------------
-- Margins
-- ---------------------------------------------------------------------------

namespace Style

/-- What the border and the padding take from every side. -/
def margin (style : Style) : Nat := style.frameThickness.toNat + style.padding.toNat

/-- What is left of an extent between two margins. -/
def room (style : Style) (extent : Nat) : Nat := extent - 2 * style.margin

end Style

-- ---------------------------------------------------------------------------
-- Rectangles in numbers
-- ---------------------------------------------------------------------------

namespace Rect

/-- The upper left corner and the extent of a rectangle, in numbers. -/
structure Spans (r : Rect) (x y width height : Nat) : Prop where
  x : r.x.toNat = x
  y : r.y.toNat = y
  width : r.width.toNat = width
  height : r.height.toNat = height

/-- Unless it has no width, the rectangle ends where the size does or before, and so it does in the
other direction unless it has no height. -/
structure FitsInto (r : Rect) (size : Size) : Prop where
  right : r.width.toNat = 0 ∨ r.x.toNat + r.width.toNat ≤ size.width.toNat
  bottom : r.height.toNat = 0 ∨ r.y.toNat + r.height.toNat ≤ size.height.toNat

/-- An area ends inside the plane. -/
structure InPlane (area : Rect) : Prop where
  right_lt : area.x.toNat + area.width.toNat < 1 <<< 64
  bottom_lt : area.y.toNat + area.height.toNat < 1 <<< 64

section Moved

variable {r area : Rect}

/-- A place in an area, moved to the area. Only a place without width is held at the edge of the
plane. -/
theorem FitsInto.toNat_translate_x (h : r.FitsInto area.size) (hArea : area.InPlane) :
    (r.translate area.topLeft).x.toNat = r.x.toNat + area.x.toNat ∨ r.width.toNat = 0 := by
  have hFits : r.width.toNat = 0 ∨ r.x.toNat + r.width.toNat ≤ area.width.toNat := h.right
  have hPlane := hArea.right_lt
  show (r.x.addSat area.x).toNat = _ ∨ _
  rw [Word.toNat_addSat]
  omega

theorem FitsInto.toNat_translate_y (h : r.FitsInto area.size) (hArea : area.InPlane) :
    (r.translate area.topLeft).y.toNat = r.y.toNat + area.y.toNat ∨ r.height.toNat = 0 := by
  have hFits : r.height.toNat = 0 ∨ r.y.toNat + r.height.toNat ≤ area.height.toNat := h.bottom
  have hPlane := hArea.bottom_lt
  show (r.y.addSat area.y).toNat = _ ∨ _
  rw [Word.toNat_addSat]
  omega

/-- A place in an area of the plane ends inside the plane. -/
theorem FitsInto.inPlane_translate (h : r.FitsInto area.size) (hArea : area.InPlane) :
    (r.translate area.topLeft).InPlane where
  right_lt := by
    have hFits : r.width.toNat = 0 ∨ r.x.toNat + r.width.toNat ≤ area.width.toNat := h.right
    have hPlane := hArea.right_lt
    have hMoved := h.toNat_translate_x hArea
    have hLt := (r.translate area.topLeft).x.toNat_lt
    show (r.translate area.topLeft).x.toNat + r.width.toNat < 1 <<< 64
    omega
  bottom_lt := by
    have hFits : r.height.toNat = 0 ∨ r.y.toNat + r.height.toNat ≤ area.height.toNat := h.bottom
    have hPlane := hArea.bottom_lt
    have hMoved := h.toNat_translate_y hArea
    have hLt := (r.translate area.topLeft).y.toNat_lt
    show (r.translate area.topLeft).y.toNat + r.height.toNat < 1 <<< 64
    omega

/-- The points of a place in an area, from the corner of the area. -/
theorem FitsInto.contains_translate_iff (h : r.FitsInto area.size) (hArea : area.InPlane)
    {p : Point} : (r.translate area.topLeft).contains p = true ↔
      area.x.toNat + r.x.toNat ≤ p.x.toNat ∧
        p.x.toNat < area.x.toNat + r.x.toNat + r.width.toNat ∧
        area.y.toNat + r.y.toNat ≤ p.y.toNat ∧
        p.y.toNat < area.y.toNat + r.y.toNat + r.height.toNat := by
  have hEnds := h.inPlane_translate hArea
  have hRight : (r.translate area.topLeft).x.toNat + r.width.toNat < 1 <<< 64 := hEnds.right_lt
  have hBottom : (r.translate area.topLeft).y.toNat + r.height.toNat < 1 <<< 64 := hEnds.bottom_lt
  have hx := h.toNat_translate_x hArea
  have hy := h.toNat_translate_y hArea
  rw [contains_iff, toNat_right, toNat_bottom]
  show _ ≤ _ ∧ _ < min _ (_ + r.width.toNat) ∧ _ ≤ _ ∧ _ < min _ (_ + r.height.toNat) ↔ _
  omega

/-- A place in an area contains no points of other areas. -/
theorem FitsInto.contains_area (h : r.FitsInto area.size) (hArea : area.InPlane) {p : Point}
    (hContains : (r.translate area.topLeft).contains p = true) : area.contains p = true := by
  have hRight : r.width.toNat = 0 ∨ r.x.toNat + r.width.toNat ≤ area.width.toNat := h.right
  have hBottom : r.height.toNat = 0 ∨ r.y.toNat + r.height.toNat ≤ area.height.toNat := h.bottom
  have hRightLt := hArea.right_lt
  have hBottomLt := hArea.bottom_lt
  rw [h.contains_translate_iff hArea] at hContains
  rw [contains_iff, toNat_right, toNat_bottom]
  omega

end Moved

end Rect

namespace AcceptDialog

-- ---------------------------------------------------------------------------
-- The places of the children
-- ---------------------------------------------------------------------------

/-- The place of the button for an answer. -/
def Places.button (places : Places) : Answer → Rect
  | .yes => places.yes
  | .no => places.no

/-- The width of a button: half of the room, less a padding between the buttons. -/
def buttonWidth (size : Size) (style : Style) : Nat :=
  (style.room size.width.toNat - style.padding.toNat) / 2

/-- The height of a button: a third of the room. -/
def buttonHeight (size : Size) (style : Style) : Nat := style.room size.height.toNat / 3

/-- The question is at the top of the room, and the buttons are at the bottom of it, the one at its
left end and the other one at its right end. -/
structure Places.Laid (size : Size) (style : Style) (places : Places) : Prop where
  info : places.info.Spans style.margin style.margin (style.room size.width.toNat)
    (style.room size.height.toNat - buttonHeight size style - style.padding.toNat)
  yes : places.yes.Spans style.margin
    (style.margin + style.room size.height.toNat - buttonHeight size style)
    (buttonWidth size style) (buttonHeight size style)
  no : places.no.Spans
    (style.margin + style.room size.width.toNat - buttonWidth size style)
    (style.margin + style.room size.height.toNat - buttonHeight size style)
    (buttonWidth size style) (buttonHeight size style)

/-- What is left of a rectangle between the margins. If nothing is, its corner may lie outside. -/
theorem spans_inset (size : Size) {style : Style} (hMargin : style.margin < 1 <<< 64) :
    ((Rect.ofCorner .zero size).inset (style.frameThickness + style.padding)).Spans style.margin
      style.margin (style.room size.width.toNat) (style.room size.height.toNat) := by
  have hSum : (style.frameThickness + style.padding).toNat = style.margin :=
    Word.toNat_add_of_lt hMargin
  have hCorner : ((0 : Word).addSat (style.frameThickness + style.padding)).toNat =
      style.margin := by
    rw [Word.toNat_addSat, hSum, UInt64.toNat_zero]
    omega
  have hExtent (extent : Word) :
      (extent.subSat ((style.frameThickness + style.padding).mulSat 2)).toNat =
        style.room extent.toNat := by
    rw [Rect.toNat_extent_inset, hSum, Style.room]
  exact ⟨hCorner, hCorner, hExtent size.width, hExtent size.height⟩

/-- The room begins at the margin, and it ends inside the plane, also if it is empty. -/
theorem margin_add_room_lt {style : Style} (hMargin : style.margin < 1 <<< 64) (extent : Word) :
    style.margin + style.room extent.toNat < 1 <<< 64 := by
  have hLt := extent.toNat_lt
  rw [Style.room]
  omega

theorem buttonWidth_le (size : Size) (style : Style) :
    2 * buttonWidth size style ≤ style.room size.width.toNat := by
  rw [buttonWidth]
  omega

theorem buttonHeight_le (size : Size) (style : Style) :
    3 * buttonHeight size style ≤ style.room size.height.toNat := by
  rw [buttonHeight]
  omega

/-- A part of an extent that is moved to the end of it begins where the rest of the extent ends. -/
theorem exists_subExact_addSat {corner extent part : Word}
    (hEnd : corner.toNat + extent.toNat < 1 <<< 64) (hPart : part.toNat ≤ extent.toNat) :
    ∃ start, (corner.addSat extent).subExact part = .ok start ∧
      start.toNat = corner.toNat + extent.toNat - part.toNat := by
  have hSum : (corner.addSat extent).toNat = corner.toNat + extent.toNat := by
    rw [Word.toNat_addSat]
    omega
  refine ⟨_, Word.subExact_of_ge (by omega), ?_⟩
  rw [Word.toNat_sub_of_ge (by omega), hSum]

/-- **The places of the children** are computed without an overflow, whatever the size. -/
theorem Places.exists_within (size : Size) {style : Style} (hMargin : style.margin < 1 <<< 64) :
    ∃ places, Places.within size style = .ok places ∧ places.Laid size style := by
  obtain ⟨hx, hy, hWidth, hHeight⟩ := spans_inset size hMargin
  have hRightLt := margin_add_room_lt hMargin size.width
  have hBottomLt := margin_add_room_lt hMargin size.height
  have hButtonWidth := buttonWidth_le size style
  have hButtonHeight := buttonHeight_le size style
  unfold Places.within
  rw [Word.addExact_of_lt hMargin]
  simp only [bind, Except.bind]
  generalize (Rect.ofCorner .zero size).inset (style.frameThickness + style.padding) = inner
    at hx hy hWidth hHeight ⊢
  have hThird : (inner.height / 3).toNat = buttonHeight size style := by
    have hDiv : (inner.height / 3).toNat = inner.height.toNat / 3 := UInt64.toNat_div _ _
    rw [hDiv, hHeight, buttonHeight]
  have hHalf : (inner.width.subSat style.padding / 2).toNat = buttonWidth size style := by
    rw [Word.toNat_half, Word.toNat_subSat, hWidth, buttonWidth]
  have hRest : ((inner.height.subSat (inner.height / 3)).subSat style.padding).toNat =
      style.room size.height.toNat - buttonHeight size style - style.padding.toNat := by
    rw [Word.toNat_subSat, Word.toNat_subSat, hHeight, hThird]
  -- the room ends inside the plane, so the buttons are moved from its true ends
  obtain ⟨buttonY, hUp, hButtonY⟩ : ∃ start, inner.bottom.subExact (inner.height / 3) = .ok start ∧
      start.toNat = inner.y.toNat + inner.height.toNat - (inner.height / 3).toNat :=
    exists_subExact_addSat (by omega) (by omega)
  obtain ⟨noX, hLeft, hNoX⟩ : ∃ start,
      inner.right.subExact (inner.width.subSat style.padding / 2) = .ok start ∧ start.toNat =
        inner.x.toNat + inner.width.toNat - (inner.width.subSat style.padding / 2).toNat :=
    exists_subExact_addSat (by omega) (by omega)
  rw [hUp, hLeft]
  rw [hy, hHeight, hThird] at hButtonY
  rw [hx, hWidth, hHalf] at hNoX
  exact ⟨_, rfl, ⟨hx, hy, hWidth, hRest⟩, ⟨hx, hButtonY, hHalf, hThird⟩,
    ⟨hNoX, hButtonY, hHalf, hThird⟩⟩

/-- The places in the order of the children. -/
def Places.all (places : Places) : List Rect := [places.info, places.yes, places.no]

section Laid

variable {size : Size} {style : Style} {places : Places}

theorem Places.Laid.fitsInto (h : places.Laid size style) :
    ∀ place ∈ places.all, place.FitsInto size := by
  obtain ⟨⟨hInfoX, hInfoY, hInfoWidth, hInfoHeight⟩, ⟨hYesX, hYesY, hYesWidth, hYesHeight⟩,
    ⟨hNoX, hNoY, hNoWidth, hNoHeight⟩⟩ := h
  have hWidth := buttonWidth_le size style
  have hHeight := buttonHeight_le size style
  have hRoom (extent : Nat) :
      style.room extent = 0 ∨ style.margin + style.room extent ≤ extent := by
    rw [Style.room]
    omega
  have hColumns := hRoom size.width.toNat
  have hRows := hRoom size.height.toNat
  simp only [all, List.forall_mem_cons, List.not_mem_nil, false_implies, implies_true, and_true]
  exact ⟨⟨by omega, by omega⟩, ⟨by omega, by omega⟩, ⟨by omega, by omega⟩⟩

/-- The points of a place that is moved to an area. -/
theorem contains_place_iff {area place : Rect} {x y width height : Nat}
    (h : place.Spans x y width height) {p : Point} :
    (place.translate area.topLeft).contains p = true ↔
      Rect.Covers (x + area.x.toNat) (y + area.y.toNat) width height p := by
  rw [Rect.contains_translate_iff, h.x, h.y, h.width, h.height]
  rfl

/-- No point belongs to two of the places in an area, wherever the area is: the buttons are below the
question, and side by side. -/
theorem Places.Laid.apart {area : Rect} (h : places.Laid area.size style) (p : Point) :
    (places.all.map fun place => place.translate area.topLeft).Pairwise fun r r' =>
      ¬(r.contains p = true ∧ r'.contains p = true) := by
  obtain ⟨hInfo, hYes, hNo⟩ := h
  have hWidth := buttonWidth_le area.size style
  have hHeight := buttonHeight_le area.size style
  simp only [all, List.map_cons, List.map_nil, List.pairwise_cons, List.forall_mem_cons,
    List.not_mem_nil, false_implies, implies_true, and_true, List.Pairwise.nil,
    contains_place_iff hInfo, contains_place_iff hYes, contains_place_iff hNo]
  refine ⟨⟨fun hBoth => ?_, fun hBoth => ?_⟩, fun hBoth => ?_⟩ <;>
    obtain ⟨⟨hLeft, hRight, hAbove, hBelow, -, -⟩, ⟨hLeft', hRight', hAbove', hBelow', -, -⟩⟩ :=
      hBoth <;>
    omega

end Laid

-- ---------------------------------------------------------------------------
-- The dialog with its children in their places
-- ---------------------------------------------------------------------------

/-- The children in their places. -/
def Places.children (places : Places) (infoText yesText noText : String) (style : Style) :
    List Element :=
  [.label (.new places.info infoText style), .button (.new places.yes yesText style),
    .button (.new places.no noText style)]

/-- The name of the button for an answer: the question is in the first slot. -/
def buttonId : Answer → ChildId
  | .yes => ⟨1⟩
  | .no => ⟨2⟩

/-- The dialog in an area with its children in their places, and with both answers bound. -/
def Places.dialog (places : Places) (area : Rect) (infoText yesText noText : String)
    (style : Style) : ModalDialog Answer where
  window :=
    { (Window.new area style capacity : Window Element) with
      children := places.children infoText yesText noText style }
  bindings := [(buttonId .yes, .yes), (buttonId .no, .no)]
  outcome := none

/-- The same dialog with the names of its children. -/
def Places.accept (places : Places) (area : Rect) (infoText yesText noText : String)
    (style : Style) : AcceptDialog where
  dialog := places.dialog area infoText yesText noText style
  info := ⟨0⟩
  yes := buttonId .yes
  no := buttonId .no

/-- A dialog in an area while it is put together: it has children and no bindings. -/
def unbound (area : Rect) (style : Style) (children : List Element) : ModalDialog Answer :=
  { ModalDialog.new area style capacity with
    window := { (Window.new area style capacity : Window Element) with children } }

theorem add_unbound {area : Rect} {style : Style} {children : List Element} {child : Element}
    (slot : Nat) (hSlot : children.length = slot) (hFree : slot < capacity) :
    (unbound area style children).add child =
      .ok (⟨slot⟩, unbound area style (children ++ [child])) := by
  subst hSlot
  exact ModalDialog.add_of_free child hFree

/-- Both answers are bound if their buttons are there and there is room. -/
theorem bindButtons_of_buttons {d : AcceptDialog} {yes no : Button}
    (hYes : d.yesButton? = some yes) (hNo : d.noButton? = some no)
    (hFree : d.dialog.bindings.length + 1 < d.dialog.window.capacity) :
    d.bindButtons = .ok { d with dialog := { d.dialog with
      bindings := d.dialog.bindings ++ [(d.yes, .yes), (d.no, .no)] } } := by
  have hFirst := ModalDialog.bind_of_button hYes (Nat.lt_of_succ_lt hFree) .yes
  have hSecond := ModalDialog.bind_of_button
    (d := { d.dialog with bindings := d.dialog.bindings ++ [(d.yes, .yes)] }) hNo
    (by simpa using hFree) .no
  rw [List.append_assoc] at hSecond
  rw [bindButtons, hFirst]
  simp only [bind, Except.bind]
  rw [hSecond]
  rfl

/-- **Putting a dialog together**: no addition and no binding is refused. -/
theorem new_of_within {area : Rect} {style : Style} {places : Places}
    (hWithin : Places.within area.size style = .ok places) (infoText yesText noText : String) :
    new area infoText yesText noText style =
      .ok (places.accept area infoText yesText noText style) := by
  have hEmpty : ModalDialog.new area style capacity = unbound area style [] := rfl
  have hInfo : (unbound area style []).add (.label (.new places.info infoText style)) =
      .ok (⟨0⟩, unbound area style [.label (.new places.info infoText style)]) :=
    add_unbound 0 rfl (by decide)
  have hYes : (unbound area style [.label (.new places.info infoText style)]).add
      (.button (.new places.yes yesText style)) = .ok (buttonId .yes, unbound area style
        [.label (.new places.info infoText style), .button (.new places.yes yesText style)]) :=
    add_unbound 1 rfl (by decide)
  have hNo : (unbound area style [.label (.new places.info infoText style),
      .button (.new places.yes yesText style)]).add (.button (.new places.no noText style)) =
        .ok (buttonId .no, unbound area style
          (places.children infoText yesText noText style)) :=
    add_unbound 2 rfl (by decide)
  have hBind : bindButtons ⟨unbound area style (places.children infoText yesText noText style),
      ⟨0⟩, buttonId .yes, buttonId .no⟩ =
        .ok (places.accept area infoText yesText noText style) :=
    bindButtons_of_buttons rfl rfl (show 0 + 1 < 4 by decide)
  simp only [new, hWithin, hEmpty, hInfo, hYes, hNo, hBind, bind, Except.bind]

/-- **A new dialog** has its children in their places. -/
theorem exists_new (area : Rect) (infoText yesText noText : String) {style : Style}
    (hMargin : style.margin < 1 <<< 64) :
    ∃ places : Places, places.Laid area.size style ∧
      new area infoText yesText noText style =
        .ok (places.accept area infoText yesText noText style) := by
  obtain ⟨places, hWithin, hLaid⟩ := Places.exists_within area.size hMargin
  exact ⟨places, hLaid, new_of_within hWithin infoText yesText noText⟩

section Children

variable {places : Places} {area : Rect} {infoText yesText noText : String} {style : Style}

/-- A child is visible, and its place is one of those of the children. -/
theorem exists_place_of_mem {child : Element}
    (h : child ∈ places.children infoText yesText noText style) :
    ∃ place ∈ places.all, child.state = .ofRect place := by
  simp only [Places.children, List.mem_cons, List.not_mem_nil, or_false] at h
  rcases h with rfl | rfl | rfl
  · exact ⟨places.info, by simp [Places.all], rfl⟩
  · exact ⟨places.yes, by simp [Places.all], rfl⟩
  · exact ⟨places.no, by simp [Places.all], rfl⟩

/-- A new dialog is where its area is. -/
theorem globalPosition_dialog :
    (places.dialog area infoText yesText noText style).window.state.globalPosition .zero =
      area.topLeft :=
  Point.offset_zero _

end Children

-- ---------------------------------------------------------------------------
-- The usual area
-- ---------------------------------------------------------------------------

/-- The area lies inside the bounds, with so many columns to the left and to the right of it and so
many rows above and below it. -/
structure HasMargins (area bounds : Rect) (left right above below : Nat) : Prop where
  left : area.x.toNat = bounds.x.toNat + left
  right : area.x.toNat + area.width.toNat + right = bounds.x.toNat + bounds.width.toNat
  above : area.y.toNat = bounds.y.toNat + above
  below : area.y.toNat + area.height.toNat + below = bounds.y.toNat + bounds.height.toNat

/-- The area lies inside the bounds, and opposite margins differ by no more than one. -/
def InMiddleOf (area bounds : Rect) : Prop :=
  ∃ left right above below, HasMargins area bounds left right above below ∧
    (left ≤ right + 1 ∧ right ≤ left + 1) ∧ (above ≤ below + 1 ∧ below ≤ above + 1)

/-- **The usual area** takes three quarters of the columns and half of the rows, from the middle. -/
theorem exists_layout {width : Word} (hWidth : 3 * width.toNat < 1 <<< 64) (height : Word) :
    ∃ area, layout ⟨0, 0, width, height⟩ = .ok area ∧
      area.Spans ((width.toNat - 3 * width.toNat / 4) / 2) ((height.toNat - height.toNat / 2) / 2)
        (3 * width.toNat / 4) (height.toNat / 2) := by
  have hTripled : width.toNat * (3 : Word).toNat < 1 <<< 64 := by
    rw [Nat.mul_comm]
    exact hWidth
  have hQuarters : (width * 3 / 4).toNat = 3 * width.toNat / 4 := by
    have hDiv : (width * 3 / 4).toNat = (width * 3).toNat / 4 := UInt64.toNat_div _ _
    rw [hDiv, Word.toNat_mul_of_lt hTripled, Nat.mul_comm]
    rfl
  -- neither of the two extents is cut off
  have hColumns : (min (width * 3 / 4) width).toNat = 3 * width.toNat / 4 := by
    rw [Word.toNat_min, hQuarters]
    omega
  have hRows : (min (height / 2) height).toNat = height.toNat / 2 := by
    rw [Word.toNat_min, Word.toNat_half]
    omega
  have hCorner (extent : Word) {part : Word} {n : Nat} (hPart : part.toNat = n)
      (hLe : n ≤ extent.toNat) :
      ((0 : Word).addSat ((extent - part) / 2)).toNat = (extent.toNat - n) / 2 := by
    have hLt := extent.toNat_lt
    rw [Word.toNat_addSat, Word.toNat_half, Word.toNat_sub_of_ge (by omega), hPart,
      UInt64.toNat_zero]
    omega
  refine ⟨Rect.centered ⟨0, 0, width, height⟩ ⟨width * 3 / 4, height / 2⟩, ?_, ?_⟩
  · unfold layout
    rw [Word.mulExact_of_lt hTripled]
    rfl
  · exact ⟨hCorner width hColumns (by omega), hCorner height hRows (by omega), hColumns, hRows⟩

theorem inMiddleOf_of_spans {area : Rect} {width height : Word}
    (h : area.Spans ((width.toNat - 3 * width.toNat / 4) / 2)
      ((height.toNat - height.toNat / 2) / 2) (3 * width.toNat / 4) (height.toNat / 2)) :
    InMiddleOf area ⟨0, 0, width, height⟩ := by
  obtain ⟨hx, hy, hWidth, hHeight⟩ := h
  have hZero : (0 : Word).toNat = 0 := UInt64.toNat_zero
  refine ⟨(width.toNat - 3 * width.toNat / 4) / 2, (width.toNat - 3 * width.toNat / 4 + 1) / 2,
    (height.toNat - height.toNat / 2) / 2, (height.toNat - height.toNat / 2 + 1) / 2, ?_,
    by omega, by omega⟩
  constructor <;> simp only [hx, hy, hWidth, hHeight, hZero] <;> omega

section Middle

variable {area bounds : Rect}

theorem InMiddleOf.inPlane (h : InMiddleOf area bounds) (hBounds : bounds.InPlane) :
    area.InPlane := by
  obtain ⟨left, right, above, below, ⟨hLeft, hRight, hAbove, hBelow⟩, -⟩ := h
  have hRightLt := hBounds.right_lt
  have hBottomLt := hBounds.bottom_lt
  exact ⟨by omega, by omega⟩

theorem InMiddleOf.contains (h : InMiddleOf area bounds) (hBounds : bounds.InPlane) {p : Point}
    (hContains : area.contains p = true) : bounds.contains p = true := by
  obtain ⟨left, right, above, below, ⟨hLeft, hRight, hAbove, hBelow⟩, -⟩ := h
  have hRightLt := hBounds.right_lt
  have hBottomLt := hBounds.bottom_lt
  rw [Rect.contains_iff, Rect.toNat_right, Rect.toNat_bottom] at hContains ⊢
  omega

end Middle

end AcceptDialog

end TouchPanel
