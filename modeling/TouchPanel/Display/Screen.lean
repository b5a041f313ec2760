import TouchPanel.Canvas
import TouchPanel.Font.Basic
import TouchPanel.Display.Framebuffer

/-!
# Screens

A screen is a canvas on a framebuffer. It writes texts in a bitmap font, if one is set, and
remembers whether something was drawn since the picture was last presented.
-/

namespace TouchPanel

/-- A canvas on a framebuffer. -/
structure Screen where
  framebuffer : Framebuffer
  font : Option Font
  /-- The colour of an empty screen. -/
  background : Color
  /-- Whether something was drawn since the last presentation. -/
  dirty : Bool

namespace Screen

/-- The screen over display memory, without a font and not yet presented. -/
def attach (layout : DisplayLayout) (memory : Array UInt8) (background : Color) :
    Screen × List Event :=
  let (framebuffer, events) := Framebuffer.attach layout memory
  ({ framebuffer, font := none, background, dirty := true }, events)

/-- The area of the picture. -/
def bounds (screen : Screen) : Rect := screen.framebuffer.bounds

/-- Paints on the framebuffer alone. -/
def onFramebuffer {α : Type} (m : Paint Framebuffer α) : Paint Screen α := fun screen =>
  match screen with
  | ⟨framebuffer, font, background, dirty⟩ =>
      match m framebuffer with
      | .done a framebuffer events => .done a ⟨framebuffer, font, background, dirty⟩ events
      | .faulted fault framebuffer events =>
          .faulted fault ⟨framebuffer, font, background, dirty⟩ events

/-- Notes that something was drawn. -/
def touch : Paint Screen Unit :=
  Paint.update fun screen => { screen with dirty := true }

/-- Notes that the picture was presented. Drawing goes straight to display memory, so there is
nothing to copy. -/
def present : Paint Screen Unit :=
  Paint.update fun screen => { screen with dirty := false }

/-- Sets the font for the texts that follow. -/
def setFont (font : Font) : Paint Screen Unit :=
  Paint.update fun screen => { screen with font := some font }

/-- Colours the whole picture in the background colour. -/
def clear : Paint Screen Unit := do
  onFramebuffer (Framebuffer.clear (← Paint.read background))
  touch

/-- Colours a rectangle. -/
def drawRect (rect : Rect) (c : Color) : Paint Screen Unit := do
  onFramebuffer (Framebuffer.fillRect rect c)
  touch

/-- Colours a border inside the edges of a rectangle. -/
def drawFrame (rect : Rect) (thickness : Word) (c : Color) : Paint Screen Unit := do
  onFramebuffer (Framebuffer.drawFrame rect thickness c)
  touch

/-! ## Texts -/

/-- Colours the lit cells of a bitmap whose upper left corner is at a point. -/
def drawGlyph (font : Font) (bitmap : Array UInt8) (corner : Point) (c : Color) :
    Paint Framebuffer Unit :=
  Paint.forEach (font.litCells bitmap) fun cell => do
    let x ← corner.x.addExact cell.x
    let y ← corner.y.addExact cell.y
    Framebuffer.setPixel x y c

/-- Writes characters from left to right until the next one does not fit the picture, and counts
those written. Characters without a bitmap take no room. -/
def drawChars (font : Font) (c : Color) : List Char → Point → Paint Framebuffer Nat
  | [], _ => return 0
  | char :: rest, corner => do
      let stop ← corner.x.addExact font.width
      if (← Paint.read Framebuffer.width) < stop then
        return 0
      match ← font.glyph? char with
      | none => drawChars font c rest corner
      | some bitmap =>
          drawGlyph font bitmap corner c
          return (← drawChars font c rest ⟨stop, corner.y⟩) + 1

/-- Writes a text with its upper left corner at a point, and counts the characters written. A
screen without a font writes nothing and is not touched. -/
def drawText (corner : Point) (text : String) (c : Color) : Paint Screen Nat := do
  match ← Paint.read font with
  | none => return 0
  | some font =>
      let written ← onFramebuffer (drawChars font c text.toList corner)
      touch
      return written

/-- The size of a text; nothing without a font. -/
def textSize (screen : Screen) (text : String) : Except Fault Size :=
  match screen.font with
  | none => return ⟨0, 0⟩
  | some font => do
      let width ← Word.timesExact text.length font.width
      return ⟨width, font.height⟩

instance : Canvas Screen where
  bounds := bounds
  textSize := textSize
  drawRect := drawRect
  drawFrame := drawFrame
  drawText := drawText

end Screen

end TouchPanel
