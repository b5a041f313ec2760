import TouchPanel.Color
import TouchPanel.Paint

/-!
# Canvases

A canvas is a surface that widgets can draw on. They ask for nothing but the operations of the
class `Canvas`; all places they name are global ones. `Recorder` is the canvas that keeps a list
of what was drawn.
-/

namespace TouchPanel

/-- A surface with an area, a measure for texts, and three things that can be drawn. -/
class Canvas (σ : Type) where
  /-- The area that can be drawn on. -/
  bounds : σ → Rect
  /-- The size of a text of one line. -/
  textSize : σ → String → Except Fault Size
  /-- Colours a rectangle. -/
  drawRect : Rect → Color → Paint σ Unit
  /-- Colours a border of the given thickness inside the edges of a rectangle. -/
  drawFrame : Rect → Word → Color → Paint σ Unit
  /-- Writes a text of one line with its upper left corner at a point, and counts the characters
  written. -/
  drawText : Point → String → Color → Paint σ Nat

/-- Measures a text. -/
def Canvas.measure {σ : Type} [Canvas σ] (text : String) : Paint σ Size := do
  Paint.lift (← Paint.read fun canvas => Canvas.textSize canvas text)

/-! ## Recording -/

/-- One thing drawn. -/
inductive Primitive where
  | rect (area : Rect) (color : Color)
  | frame (area : Rect) (thickness : Word) (color : Color)
  | text (corner : Point) (text : String) (color : Color)
  deriving DecidableEq, Repr

/-- A canvas that records what is drawn. All characters have the same size. -/
structure Recorder where
  size : Size
  charSize : Size
  /-- What was drawn, the first first. -/
  drawn : List Primitive
  deriving DecidableEq, Repr

namespace Recorder

/-- Records one thing. -/
def record (primitive : Primitive) : Paint Recorder Unit :=
  Paint.update fun canvas => { canvas with drawn := canvas.drawn ++ [primitive] }

instance : Canvas Recorder where
  bounds canvas := .ofCorner .zero canvas.size
  textSize canvas text := do
    let width ← Word.timesExact text.length canvas.charSize.width
    return ⟨width, canvas.charSize.height⟩
  drawRect area color := record (.rect area color)
  drawFrame area thickness color := record (.frame area thickness color)
  drawText corner text color := do
    record (.text corner text color)
    return text.length

end Recorder

end TouchPanel
