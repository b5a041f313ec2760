import Mathlib.Data.List.DropRight
import TouchPanel.Widget.Button

/-!
# Strokes of the pointer

A stroke is what the pointer does between being put down and being lifted. In a list of ticks the
stroke under way is the longest block of held ticks at the end, `lastStroke`.

A button keeps three flags and no places. Two of them nevertheless say something about a whole
stroke, which is the invariant `Button.Follows`:

* `pointerHeld` — the stroke has begun;
* `pressed`     — it has begun, and has not left the button since.

`Button.Follows.track` says that following the pointer keeps the invariant, whatever the pointer
does.
-/

namespace TouchPanel

-- ---------------------------------------------------------------------------
-- Strokes
-- ---------------------------------------------------------------------------

/-- Whether the pointer is held down in a tick. -/
def Tick.isHeld (tick : Tick) : Bool := tick.pointer.isSome

/-- The places of the pointer in the longest block of held ticks at the end of a list. -/
def lastStroke (ticks : List Tick) : List Point :=
  (ticks.rtakeWhile Tick.isHeld).filterMap Tick.pointer

theorem lastStroke_nil : lastStroke [] = [] := by
  rw [lastStroke, List.rtakeWhile_nil, List.filterMap_nil]

theorem lastStroke_concat_held {ticks : List Tick} {tick : Tick} {place : Point}
    (h : tick.pointer = some place) :
    lastStroke (ticks ++ [tick]) = lastStroke ticks ++ [place] := by
  have hHeld : tick.isHeld = true := by rw [Tick.isHeld, h, Option.isSome_some]
  rw [lastStroke, List.rtakeWhile_concat_pos _ _ _ hHeld, List.filterMap_append]
  simp [lastStroke, h]

theorem lastStroke_concat_lifted {ticks : List Tick} {tick : Tick} (h : tick.pointer = none) :
    lastStroke (ticks ++ [tick]) = [] := by
  have hLifted : ¬tick.isHeld = true := by simp [Tick.isHeld, h]
  rw [lastStroke, List.rtakeWhile_concat_neg _ _ _ hLifted, List.filterMap_nil]

/-- A list of held ticks is one stroke. -/
theorem lastStroke_of_held {ticks : List Tick} (h : ∀ tick ∈ ticks, tick.pointer ≠ none) :
    lastStroke ticks = ticks.filterMap Tick.pointer := by
  rw [lastStroke, List.rtakeWhile_eq_self_iff.mpr]
  intro tick hTick
  rw [Tick.isHeld, Option.isSome_iff_ne_none]
  exact h tick hTick

/-- The stroke has begun and lies in the area from its first place to its last. -/
def Rect.Carries (area : Rect) (stroke : List Point) : Prop :=
  stroke ≠ [] ∧ ∀ place ∈ stroke, area.contains place = true

instance (area : Rect) (stroke : List Point) : Decidable (area.Carries stroke) :=
  inferInstanceAs (Decidable (_ ∧ _))

theorem Rect.not_carries_nil (area : Rect) : ¬area.Carries [] :=
  fun h => h.1 rfl

/-- A stroke lies in the area when it did so far, if it had begun, and still does. -/
theorem Rect.carries_concat {area : Rect} {stroke : List Point} {place : Point} :
    area.Carries (stroke ++ [place]) ↔
      (stroke = [] ∨ area.Carries stroke) ∧ area.contains place = true := by
  by_cases hNil : stroke = []
  · simp [Carries, hNil]
  · simp [Carries, hNil, List.mem_append, or_imp, forall_and]

-- ---------------------------------------------------------------------------
-- Buttons
-- ---------------------------------------------------------------------------

namespace Button

/-- The flags of a button say about the stroke under way whether it has begun, and whether it has
been on the button ever since. -/
structure Follows (b : Button) (area : Rect) (stroke : List Point) : Prop where
  held : b.pointerHeld = true ↔ stroke ≠ []
  pressed : b.pressed = true ↔ area.Carries stroke

/-- A button that was reset, or never stepped, knows of no stroke. -/
theorem follows_nil {b : Button} (area : Rect) (hHeld : b.pointerHeld = false)
    (hPressed : b.pressed = false) : b.Follows area [] where
  held := by simp [hHeld]
  pressed := by simp [hPressed, area.not_carries_nil]

theorem Follows.track_held {b : Button} {area : Rect} {stroke : List Point}
    (h : b.Follows area stroke) (place : Point) :
    (b.track area (some place)).1.Follows area (stroke ++ [place]) := by
  have hBegun : stroke ++ [place] ≠ [] := by simp
  have hUp : b.pointerHeld = false ↔ stroke = [] := by
    rw [← Bool.not_eq_true, h.held, not_not]
  refine ⟨?_, ?_⟩
  · rw [pointerHeld_track]
    exact iff_of_true rfl hBegun
  · -- it was pressed, and so carried the stroke, or the stroke begins here
    rw [pressed_track, Rect.carries_concat, Option.any_some, Bool.and_eq_true, Bool.or_eq_true,
      Bool.not_eq_true', h.pressed, hUp, or_comm]

theorem follows_track_lifted (b : Button) (area : Rect) :
    (b.track area none).1.Follows area [] :=
  follows_nil area (b.pointerHeld_track area none) (b.pressed_track area none)

/-- **Following the pointer.** A button that agrees with the stroke under way agrees with it after
one more tick. -/
theorem Follows.track {b : Button} {area : Rect} {ticks : List Tick}
    (h : b.Follows area (lastStroke ticks)) (tick : Tick) :
    (b.track area tick.pointer).1.Follows area (lastStroke (ticks ++ [tick])) := by
  cases hPointer : tick.pointer with
  | none =>
    rw [lastStroke_concat_lifted hPointer]
    exact b.follows_track_lifted area
  | some place =>
    rw [lastStroke_concat_held hPointer]
    exact h.track_held place

end Button

end TouchPanel
