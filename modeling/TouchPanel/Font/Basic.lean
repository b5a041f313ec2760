import TouchPanel.Geometry

/-!
# Bitmap fonts

A font is a table of bitmaps of equal length, one for each code point from zero on.
`Font.glyph?` finds the bitmap of a character, and `Font.litCells` lists the cells of a bitmap
that are drawn.
-/

namespace TouchPanel

/-- The version of the format that a font was read from. -/
inductive FontVersion where
  | v1
  | v2
  deriving DecidableEq, Repr

/-- A bitmap font. -/
structure Font where
  version : FontVersion
  /-- The width of a character in pixels. -/
  width : Word
  /-- The height of a character in pixels. -/
  height : Word
  glyphCount : Word
  bytesPerGlyph : Word
  /-- The bitmaps, one after the other. -/
  glyphs : Array UInt8
  deriving DecidableEq, Repr

namespace Font

/-! ## Bitmaps -/

/-- The number of bytes in a row of a bitmap. Widths are read from 32 bits, so the sum is
exact. -/
def rowBytes (font : Font) : Word := (font.width + 7) / 8

/-- The bitmap of a character, if the font has one. -/
def glyph? (font : Font) (c : Char) : Except Fault (Option (Array UInt8)) := do
  let index : Word := c.val.toUInt64
  if font.glyphCount ≤ index then
    return none
  let start ← index.mulExact font.bytesPerGlyph
  let stop ← start.addExact font.bytesPerGlyph
  return if stop.toNat ≤ font.glyphs.size then
    some (font.glyphs.extract start.toNat stop.toNat)
  else
    none

/-- The number of bytes by which the rows of a bitmap are apart. -/
def rowStep (font : Font) : Nat := max font.rowBytes.toNat 1

/-- Whether a bitmap has the bit of a cell set: rows follow each other, the highest bit of a
byte is the leftmost cell, and what lies past the end of the bitmap is not set. -/
def isLit (font : Font) (bitmap : Array UInt8) (row column : Nat) : Bool :=
  (bitmap.getD (row * font.rowStep + column / 8) 0).toNat.testBit (7 - column % 8)

/-- The number of rows that a bitmap has bytes for, at most the height of the font. -/
def rowCount (font : Font) (bitmap : Array UInt8) : Nat :=
  min font.height.toNat ((bitmap.size + font.rowStep - 1) / font.rowStep)

/-- The cells of a bitmap that are drawn, as points relative to its upper left corner, row by
row. -/
def litCells (font : Font) (bitmap : Array UInt8) : List Point :=
  (List.range (font.rowCount bitmap)).flatMap fun row =>
    ((List.range font.width.toNat).filter (font.isLit bitmap row)).map fun column =>
      ⟨UInt64.ofNat column, UInt64.ofNat row⟩

end Font

end TouchPanel
