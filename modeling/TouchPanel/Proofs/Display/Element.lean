import TouchPanel.Proofs.Display.Drawing
import TouchPanel.Proofs.Step.Element

/-!
# Labels and buttons on a screen

A label or a button whose text has room in it covers its area with a ground and writes inside of
it. So the picture of an element colours every point of its area and no other one.

* `Element.Placed` — the area ends inside the plane and has room for the text.
* `Placed.within`, `isSome_look_picture` — the picture colours just the area.
-/

namespace TouchPanel

/-- With a font, the size of a text is that of its characters in a row. -/
theorem Screen.textSize_eq_ok {s : Screen} {font : Font} (hFont : s.font = some font)
    {text : String} {size : Size} (h : Canvas.textSize s text = .ok size) :
    size.width.toNat = text.length * font.width.toNat ∧ size.height = font.height := by
  have hSize : (do
      let width ← Word.timesExact text.length font.width
      return ⟨width, font.height⟩ : Except Fault Size) = .ok size := by
    rw [← h]
    show _ = textSize s text
    rw [textSize, hFont]
  unfold Word.timesExact at hSize
  split at hSize
  · rename_i hLt
    cases hSize
    exact ⟨UInt64.toNat_ofNat_of_lt' hLt, rfl⟩
  · cases hSize

/-- The text has a size, and this is no larger than the room for it. -/
def TextMeasure.Fits (measure : TextMeasure) (text : String) (room : Size) : Prop :=
  ∃ size, measure text = .ok size ∧ size.width.toNat ≤ room.width.toNat ∧
    size.height.toNat ≤ room.height.toNat

namespace Element

/-- The area ends inside the plane, and the text of the element has room in it. -/
structure Placed (measure : TextMeasure) (area : Rect) (e : Element) : Prop where
  right_lt : area.x.toNat + area.width.toNat < 1 <<< 64
  bottom_lt : area.y.toNat + area.height.toNat < 1 <<< 64
  fits : measure.Fits e.text area.size

section Placed

variable {measure : TextMeasure} {area : Rect} {e : Element}

theorem Placed.cornerInPlane (h : e.Placed measure area) (size : Size) :
    e.CornerInPlane area size := by
  have hx := h.right_lt
  have hy := h.bottom_lt
  cases e with
  | label l =>
    rw [CornerInPlane, Word.toNat_half, Word.toNat_subSat]
    omega
  | button b =>
    rw [CornerInPlane, Word.toNat_half, Word.toNat_half, Word.toNat_subSat, Word.toNat_subSat]
    omega

/-- The text of the element has a size, and its corner is in the plane. -/
theorem Placed.writable (h : e.Placed measure area) : e.Writable measure area := by
  obtain ⟨size, hSize, -⟩ := h.fits
  exact ⟨size, hSize, h.cornerInPlane size⟩

/-- A text that has room in the area is written inside of it. -/
theorem Placed.textCorner_bounds (h : e.Placed measure area) {size : Size}
    (hWidth : size.width.toNat ≤ area.width.toNat)
    (hHeight : size.height.toNat ≤ area.height.toNat) :
    area.x.toNat ≤ (e.textCorner area size).x.toNat ∧
      (e.textCorner area size).x.toNat + size.width.toNat ≤ area.x.toNat + area.width.toNat ∧
      area.y.toNat ≤ (e.textCorner area size).y.toNat ∧
      (e.textCorner area size).y.toNat + size.height.toNat ≤
        area.y.toNat + area.height.toNat := by
  have hx := h.right_lt
  have hy := h.bottom_lt
  have hMiddle {a w t : Word} (hLt : a.toNat + w.toNat < 1 <<< 64) :
      (a + w.subSat t / 2).toNat = a.toNat + (w.toNat - t.toNat) / 2 := by
    rw [Word.toNat_add_of_lt, Word.toNat_half, Word.toNat_subSat]
    rw [Word.toNat_half, Word.toNat_subSat]
    omega
  cases e with
  | label l =>
    simp only [textCorner, hMiddle hy]
    omega
  | button b =>
    simp only [textCorner, hMiddle hx, hMiddle hy]
    omega

/-- Following the pointer changes neither the text nor its place. -/
theorem Placed.followed (h : e.Placed measure area) (origin : Point) (tick : Tick) :
    (e.followed origin tick).Placed measure area where
  right_lt := h.right_lt
  bottom_lt := h.bottom_lt
  fits := by
    rw [e.text_followed]
    exact h.fits

end Placed

section Screen

variable {s : Screen} {area : Rect} {e : Element}

/-- The picture of an element that is placed can be drawn. -/
theorem Placed.endsInPlane (h : e.Placed (Canvas.textSize s) area) :
    ∀ p ∈ e.picture (Canvas.textSize s) area, p.EndsInPlane s.font := by
  obtain ⟨size, hSize, hWidth, hHeight⟩ := h.fits
  obtain ⟨-, hRight, -, hBottom⟩ := h.textCorner_bounds hWidth hHeight
  have hx := h.right_lt
  have hy := h.bottom_lt
  rw [picture, TextMeasure.size_of_ok hSize]
  intro p hp
  simp only [List.mem_cons, List.not_mem_nil, or_false] at hp
  rcases hp with rfl | rfl
  · trivial
  · intro font hFont
    obtain ⟨hTextWidth, hTextHeight⟩ := Screen.textSize_eq_ok hFont hSize
    rw [← hTextWidth, ← hTextHeight]
    exact ⟨by omega, by omega⟩

/-- The picture of an element that is placed keeps to its area. -/
theorem Placed.within (h : e.Placed (Canvas.textSize s) area) :
    (s.look (e.picture (Canvas.textSize s) area)).Within area := by
  obtain ⟨size, hSize, hWidth, hHeight⟩ := h.fits
  obtain ⟨hLeft, hRight, hTop, hBottom⟩ := h.textCorner_bounds hWidth hHeight
  rw [picture, TextMeasure.size_of_ok hSize]
  refine Layer.within_stack fun layer hLayer => ?_
  obtain ⟨p, hp, rfl⟩ := List.mem_map.mp hLayer
  simp only [List.mem_cons, List.not_mem_nil, or_false] at hp
  rcases hp with rfl | rfl
  · exact Layer.within_fill fun _ hContains => hContains
  · cases hFont : s.font with
    | none => exact Layer.within_empty area
    | some font =>
      obtain ⟨hTextWidth, hTextHeight⟩ := Screen.textSize_eq_ok hFont hSize
      rw [hTextWidth, ← String.length_toList] at hRight
      rw [hTextHeight] at hBottom
      exact Screen.within_charsLayer h.right_lt h.bottom_lt hLeft hRight hTop hBottom

/-- The picture of an element colours all of its area. -/
theorem isSome_look_picture (measure : TextMeasure) {p : Point}
    (hContains : area.contains p = true) :
    (s.look (e.picture measure area) p).isSome = true := by
  have hGround : Primitive.layer s.framebuffer.width s.font (.rect area e.ground) p =
      some e.ground := if_pos hContains
  simp only [picture, Screen.look, Primitive.layerOf, List.map_cons, Layer.stack, Layer.onto, hGround]
  simp

end Screen

end Element

end TouchPanel
