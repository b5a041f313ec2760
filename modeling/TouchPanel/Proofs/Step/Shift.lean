import Mathlib.Data.List.Basic
import TouchPanel.Proofs.Step.Unfailing

/-!
# Steps of widgets that are moved

A step takes the place of the owner and the pointer from outside. If both are moved by the same
amount, the widget notices nothing and its drawing is moved.

Places are held at the limit of the plane, and this does no harm by itself: whether a sum is held on
the way or at its end makes no difference (`Word.addSat_assoc`), so all areas are moved. Two
comparisons do notice the limit, however. The pointer may be held there while the button is not, and
the text of an element is moved down from its edge by a sum that is not held. Neither happens while
there is room (`Rect.HasRoom`).

* `Element.shifts` — labels and buttons, if there is room for them.
* `Window.shifts`, `ModalDialog.shifts` — containers, if it is true of their children.
-/

namespace TouchPanel

-- ---------------------------------------------------------------------------
-- Moving
-- ---------------------------------------------------------------------------

namespace Word

variable {a b c : Word}

theorem toNat_addSat_of_lt (h : a.toNat + b.toNat < 1 <<< 64) :
    (a.addSat b).toNat = a.toNat + b.toNat := by
  rw [toNat_addSat]
  omega

/-- Below the limit a sum is moved with its first part. -/
theorem addSat_add (h : a.toNat + b.toNat + c.toNat < 1 <<< 64) :
    a.addSat c + b = (a + b).addSat c := by
  have hMoved : (a.addSat c).toNat = a.toNat + c.toNat := toNat_addSat_of_lt (by omega)
  have hSum : (a + b).toNat = a.toNat + b.toNat := toNat_add_of_lt (by omega)
  have hLeft : (a.addSat c + b).toNat = (a.addSat c).toNat + b.toNat := toNat_add_of_lt (by omega)
  have hRight : ((a + b).addSat c).toNat = (a + b).toNat + c.toNat :=
    toNat_addSat_of_lt (by omega)
  rw [← UInt64.toNat_inj]
  omega

/-- Half of what is left of an extent is no more than the extent. -/
theorem toNat_half_subSat_le (extent used : Word) :
    (extent.subSat used / 2).toNat ≤ extent.toNat := by
  rw [toNat_half, toNat_subSat]
  omega

end Word

/-- Moved by `delta` the point is still in the plane. -/
def Point.HasRoom (p delta : Point) : Prop :=
  p.x.toNat + delta.x.toNat < 1 <<< 64 ∧ p.y.toNat + delta.y.toNat < 1 <<< 64

/-- Moved by `delta` the rectangle still ends inside the plane. -/
def Rect.HasRoom (r : Rect) (delta : Point) : Prop :=
  r.x.toNat + r.width.toNat + delta.x.toNat < 1 <<< 64 ∧
    r.y.toNat + r.height.toNat + delta.y.toNat < 1 <<< 64

/-- The tick with the pointer moved by `delta`. -/
def Tick.moved (tick : Tick) (delta : Point) : Tick :=
  { tick with pointer := tick.pointer.map (Point.offset · delta) }

namespace Primitive

/-- What is drawn, moved by `delta`. -/
def moved (delta : Point) : Primitive → Primitive
  | rect area color => rect (area.translate delta) color
  | frame area thickness color => frame (area.translate delta) thickness color
  | text corner content color => text (corner.offset delta) content color

/-- The place of what is drawn. -/
def corner : Primitive → Point
  | rect area _ => area.topLeft
  | frame area _ _ => area.topLeft
  | text corner _ _ => corner

end Primitive

section Moving

variable {delta origin place : Point} {area : Rect}

theorem Rect.HasRoom.topLeft (h : area.HasRoom delta) : area.topLeft.HasRoom delta := by
  obtain ⟨hRight, hBottom⟩ := h
  constructor
  · show area.x.toNat + delta.x.toNat < 1 <<< 64
    omega
  · show area.y.toNat + delta.y.toNat < 1 <<< 64
    omega

/-- Where there is room, a rectangle and a point that are moved together are to each other as they
were. -/
theorem Rect.contains_translate_offset (hArea : area.HasRoom delta) (hPlace : place.HasRoom delta) :
    (area.translate delta).contains (place.offset delta) = area.contains place := by
  obtain ⟨hRight, hBottom⟩ := hArea
  obtain ⟨hx, hy⟩ := hPlace
  rw [Bool.eq_iff_iff, contains_iff, contains_iff]
  simp only [toNat_right, toNat_bottom, translate, Point.offset, Word.toNat_addSat]
  omega

theorem WidgetState.globalPosition_offset (state : WidgetState) :
    state.globalPosition (origin.offset delta) = (state.globalPosition origin).offset delta := by
  simp only [globalPosition, Point.offset, Word.addSat_assoc]

theorem WidgetState.globalBounds_offset (state : WidgetState) :
    state.globalBounds (origin.offset delta) = (state.globalBounds origin).translate delta := by
  simp only [globalBounds, Rect.translate, Point.offset, Word.addSat_assoc]

end Moving

/-- A step of the widget does not notice a move: it leaves the same widget, and its drawing is
moved, of which nothing is held at the limit of the plane. -/
structure StepModel.Shifts {α : Type} [StepModel α] (delta origin : Point) (tick : Tick) (w : α) :
    Prop where
  next : StepModel.next (origin.offset delta) (tick.moved delta) w = StepModel.next origin tick w
  drawing (measure : TextMeasure) :
    StepModel.drawing measure (origin.offset delta) (tick.moved delta) w =
      (StepModel.drawing measure origin tick w).map (Primitive.moved delta)
  drawable (measure : TextMeasure) :
    StepModel.Drawable measure (origin.offset delta) (tick.moved delta) w ↔
      StepModel.Drawable measure origin tick w
  hasRoom (measure : TextMeasure) :
    ∀ p ∈ StepModel.drawing measure origin tick w, p.corner.HasRoom delta

-- ---------------------------------------------------------------------------
-- Labels and buttons
-- ---------------------------------------------------------------------------

/-- A button that is moved with the pointer follows it in the same way. -/
theorem Button.track_moved {delta : Point} {area : Rect} {tick : Tick}
    (hArea : area.HasRoom delta) (hPointer : ∀ place ∈ tick.pointer, place.HasRoom delta)
    (b : Button) :
    b.track (area.translate delta) (tick.moved delta).pointer = b.track area tick.pointer := by
  obtain ⟨elapsed, pointer⟩ := tick
  rcases pointer with - | place
  · rfl
  · have hContains := Rect.contains_translate_offset hArea (hPointer place rfl)
    simp only [track, Tick.moved, Option.map_some, hContains]
    rfl

namespace Element

section Area

variable {delta : Point} {area : Rect} (e : Element)

/-- Where there is room, a text needs nothing but a size. -/
theorem writable_iff_of_hasRoom (h : area.HasRoom delta) (measure : TextMeasure) :
    e.Writable measure area ↔ ∃ size, measure e.text = .ok size := by
  constructor
  · rintro ⟨size, hSize, -⟩
    exact ⟨size, hSize⟩
  · rintro ⟨size, hSize⟩
    obtain ⟨hRight, hBottom⟩ := h
    exact ⟨size, hSize, (e.middleInPlane_of_lt (by omega) (by omega)).corner size⟩

/-- So it does in the area that is moved. -/
theorem writable_translate_iff (h : area.HasRoom delta) (measure : TextMeasure) :
    e.Writable measure (area.translate delta) ↔ e.Writable measure area := by
  have hRoom : (area.translate delta).HasRoom .zero := by
    obtain ⟨hRight, hBottom⟩ := h
    simp only [Rect.HasRoom, Rect.translate, Point.zero, Word.toNat_addSat, UInt64.toNat_zero]
    omega
  rw [e.writable_iff_of_hasRoom h, e.writable_iff_of_hasRoom hRoom]

/-- The corner of a text is moved with the area. -/
theorem textCorner_translate (h : area.HasRoom delta) (size : Size) :
    e.textCorner (area.translate delta) size = (e.textCorner area size).offset delta := by
  obtain ⟨hRight, hBottom⟩ := h
  have hColumn := Word.toNat_half_subSat_le area.width size.width
  have hRow := Word.toNat_half_subSat_le area.height size.height
  have hy : area.y.addSat delta.y + area.height.subSat size.height / 2 =
      (area.y + area.height.subSat size.height / 2).addSat delta.y :=
    Word.addSat_add (by omega)
  rcases e with l | b
  · exact congrArg (Point.mk _) hy
  · have hx : area.x.addSat delta.x + area.width.subSat size.width / 2 =
        (area.x + area.width.subSat size.width / 2).addSat delta.x :=
      Word.addSat_add (by omega)
    exact congrArg₂ Point.mk hx hy

theorem picture_translate (h : area.HasRoom delta) (measure : TextMeasure) :
    e.picture measure (area.translate delta) =
      (e.picture measure area).map (Primitive.moved delta) := by
  simp only [picture, List.map_cons, List.map_nil, Primitive.moved, e.textCorner_translate h]

/-- The ground and the text of an element are still in the plane when they are moved. -/
theorem hasRoom_of_mem_picture (h : area.HasRoom delta) {measure : TextMeasure} {p : Primitive}
    (hp : p ∈ e.picture measure area) : p.corner.HasRoom delta := by
  simp only [picture, List.mem_cons, List.not_mem_nil, or_false] at hp
  rcases hp with rfl | rfl
  · exact h.topLeft
  · obtain ⟨hRight, hBottom⟩ := h
    have hColumn := Word.toNat_half_subSat_le area.width (measure.size e.text).width
    have hRow := Word.toNat_half_subSat_le area.height (measure.size e.text).height
    rcases e with l | b
    · constructor
      · show area.x.toNat + delta.x.toNat < 1 <<< 64
        omega
      · show (area.y + area.height.subSat _ / 2).toNat + delta.y.toNat < 1 <<< 64
        rw [Word.toNat_add_of_lt (by omega)]
        omega
    · constructor
      · show (area.x + area.width.subSat _ / 2).toNat + delta.x.toNat < 1 <<< 64
        rw [Word.toNat_add_of_lt (by omega)]
        omega
      · show (area.y + area.height.subSat _ / 2).toNat + delta.y.toNat < 1 <<< 64
        rw [Word.toNat_add_of_lt (by omega)]
        omega

end Area

section Shifts

variable {delta origin : Point} {tick : Tick} {e : Element}

theorem followed_moved (hArea : (e.state.globalBounds origin).HasRoom delta)
    (hPointer : ∀ place ∈ tick.pointer, place.HasRoom delta) :
    e.followed (origin.offset delta) (tick.moved delta) = e.followed origin tick := by
  rcases e with l | b
  · rfl
  · show button (b.track _ _).1 = button (b.track _ _).1
    rw [WidgetState.globalBounds_offset]
    exact congrArg (fun tracked => button tracked.1) (b.track_moved hArea hPointer)

/-- **Labels and buttons do not notice a move** for which there is room. -/
theorem shifts (hArea : (e.state.globalBounds origin).HasRoom delta)
    (hPointer : ∀ place ∈ tick.pointer, place.HasRoom delta) :
    StepModel.Shifts delta origin tick e where
  next := congrArg (mapState .clearDirty) (followed_moved hArea hPointer)
  drawing measure := by
    simp only [StepModel.drawing, followed_moved hArea hPointer, WidgetState.globalBounds_offset,
      picture_translate _ hArea]
    split
    · rfl
    · rfl
  drawable measure := by
    simp only [StepModel.Drawable, followed_moved hArea hPointer, WidgetState.globalBounds_offset,
      writable_translate_iff _ hArea]
  hasRoom measure p hp := by
    simp only [StepModel.drawing] at hp
    split at hp
    · exact hasRoom_of_mem_picture _ hArea hp
    · exact absurd hp List.not_mem_nil

end Shifts

end Element

-- ---------------------------------------------------------------------------
-- Windows
-- ---------------------------------------------------------------------------

namespace Window

theorem ground_offset {α : Type} (w : Window α) (place delta : Point) :
    w.ground (place.offset delta) = (w.ground place).map (Primitive.moved delta) := by
  unfold ground
  split
  · rfl
  · rfl

theorem corner_of_mem_ground {α : Type} {w : Window α} {place : Point} {p : Primitive}
    (hp : p ∈ w.ground place) : p.corner = place := by
  unfold ground at hp
  split at hp
  · simp only [List.mem_cons, List.not_mem_nil, or_false] at hp
    rcases hp with rfl | rfl
    · rfl
    · rfl
  · obtain rfl := List.mem_singleton.mp hp
    rfl

variable {α : Type} [Widget α] [StepModel α] {delta origin : Point} {tick : Tick} {w : Window α}

/-- **A window does not notice a move** if its visible children do not and its own corner stays in
the plane. -/
theorem shifts (hPlace : (w.state.globalPosition origin).HasRoom delta)
    (hChildren : ∀ child ∈ w.marked, (Widget.state child).visible = true →
      StepModel.Shifts delta (w.state.globalPosition origin) tick child) :
    StepModel.Shifts delta origin tick w where
  next := by
    simp only [StepModel.next, WidgetState.globalPosition_offset]
    congr 1
    refine List.map_congr_left fun child hChild => ?_
    unfold nextChild
    split
    · rename_i hVisible
      exact (hChildren child hChild hVisible).next
    · rfl
  drawing measure := by
    simp only [StepModel.drawing, WidgetState.globalPosition_offset, ground_offset, List.map_append,
      List.map_flatMap]
    congr 1
    · split
      · rfl
      · rfl
    · refine List.flatMap_congr fun child hChild => ?_
      unfold childDrawing
      split
      · rename_i hVisible
        exact (hChildren child hChild hVisible).drawing measure
      · rfl
  drawable measure := by
    simp only [StepModel.Drawable, WidgetState.globalPosition_offset, ChildDrawable]
    refine forall₂_congr fun child hChild => imp_congr_right fun hVisible => ?_
    exact (hChildren child hChild hVisible).drawable measure
  hasRoom measure p hp := by
    rcases List.mem_append.mp hp with hGround | hInner
    · split at hGround
      · rw [corner_of_mem_ground hGround]
        exact hPlace
      · exact absurd hGround List.not_mem_nil
    · obtain ⟨child, hChild, hDrawn⟩ := List.mem_flatMap.mp hInner
      unfold childDrawing at hDrawn
      split at hDrawn
      · rename_i hVisible
        exact (hChildren child hChild hVisible).hasRoom measure p hDrawn
      · exact absurd hDrawn List.not_mem_nil

end Window

-- ---------------------------------------------------------------------------
-- Dialogs
-- ---------------------------------------------------------------------------

namespace ModalDialog

variable {O : Type} {delta origin : Point} {tick : Tick} {d : ModalDialog O}

theorem shifts_of_resolved (h : d.outcome.isSome = true) : StepModel.Shifts delta origin tick d where
  next := by simp only [StepModel.next, h, if_true]
  drawing measure := by simp only [StepModel.drawing, h, if_true, List.map_nil]
  drawable measure := by simp only [StepModel.Drawable, h, reduceCtorEq, false_implies]
  hasRoom measure p hp := by
    simp only [StepModel.drawing, h, if_true] at hp
    exact absurd hp List.not_mem_nil

/-- **A dialog does not notice a move** if its window does not. Clicks are looked through in any
place. -/
theorem shifts (hWindow : d.outcome.isSome = false → StepModel.Shifts delta origin tick d.window) :
    StepModel.Shifts delta origin tick d := by
  cases hOutcome : d.outcome.isSome with
  | true => exact shifts_of_resolved hOutcome
  | false =>
    obtain ⟨hNext, hDrawing, hDrawable, hRoom⟩ := hWindow hOutcome
    refine ⟨?_, fun measure => ?_, fun measure => ?_, fun measure p hp => ?_⟩
    · simp only [StepModel.next, hOutcome, Bool.false_eq_true, if_false]
      exact congrArg (fun window => ({ d with window } : ModalDialog O).collected) hNext
    · simp only [StepModel.drawing, hOutcome, Bool.false_eq_true, if_false]
      exact hDrawing measure
    · simp only [StepModel.Drawable, hOutcome, forall_const]
      exact hDrawable measure
    · simp only [StepModel.drawing, hOutcome, Bool.false_eq_true, if_false] at hp
      exact hRoom measure p hp

end ModalDialog

end TouchPanel
