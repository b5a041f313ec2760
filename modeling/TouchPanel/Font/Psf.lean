import TouchPanel.Font.Basic

/-!
# Reading fonts

Fonts are read from the two versions of the PC screen font format. After a magic number and a
header come the bitmaps; a Unicode table after them is not read. `Font.load` reads a font of
either version or says why the bytes are none.
-/

namespace TouchPanel

/-- Why bytes are no font. -/
inductive FontError where
  /-- There is not even room for a magic number. -/
  | notAPsfFont
  /-- The first bytes are the magic number of neither version. -/
  | invalidMagic
  /-- The header or the bitmaps reach past the end. -/
  | bufferTooSmall
  deriving DecidableEq, Repr

/-- The text shown for a font error. -/
def FontError.message : FontError → String
  | .notAPsfFont => "not a PSF font"
  | .invalidMagic => "invalid PSF magic"
  | .bufferTooSmall => "font data truncated"

namespace Font

/-! ## Headers -/

/-- The first bytes of a font of version 1. -/
def magic1 : Array UInt8 := #[0x36, 0x04]

/-- The first bytes of a font of version 2. -/
def magic2 : Array UInt8 := #[0x72, 0xb5, 0x4a, 0x86]

/-- The length of the header of version 1. -/
def headerSize1 : Nat := 4

/-- The length of the least header of version 2. -/
def headerSize2 : Nat := 32

/-- The number written by bytes, the lowest byte first. -/
def littleEndian : List UInt8 → Nat
  | [] => 0
  | byte :: rest => byte.toNat + 256 * littleEndian rest

/-- The four-byte field in the given place after the magic number of version 2. -/
def headerField (data : Array UInt8) (index : Nat) : Word :=
  UInt64.ofNat (littleEndian (data.extract (4 + 4 * index) (8 + 4 * index)).toList)

/-- Whether `data` begins with `magic`. -/
def startsWith (magic data : Array UInt8) : Bool :=
  data.extract 0 magic.size == magic

/-! ## Loading -/

/-- Cuts the bitmaps out of `data`, where they start at `offset`. -/
def withGlyphs (data : Array UInt8) (offset width height glyphCount bytesPerGlyph : Word)
    (version : FontVersion) : Except FontError Font :=
  match (glyphCount.mul? bytesPerGlyph).bind (Word.add? · offset) with
  | none => .error .bufferTooSmall
  | some needed =>
      if data.size < needed.toNat then
        .error .bufferTooSmall
      else
        .ok { version, width, height, glyphCount, bytesPerGlyph,
              glyphs := data.extract offset.toNat needed.toNat }

/-- Reads a font of version 1: 256 or 512 characters, eight pixels wide. -/
def load1 (data : Array UInt8) : Except FontError Font :=
  if data.size < headerSize1 then
    .error .bufferTooSmall
  else
    let charSize := (data.getD 3 0).toUInt64
    let glyphCount := if data.getD 2 0 &&& 1 = 0 then 256 else 512
    withGlyphs data (UInt64.ofNat headerSize1) 8 charSize glyphCount charSize .v1

/-- Reads a font of version 2, whose header says where its bitmaps start. -/
def load2 (data : Array UInt8) : Except FontError Font :=
  if data.size < headerSize2 then
    .error .bufferTooSmall
  else
    let headerSize := headerField data 1
    let glyphCount := headerField data 3
    let bytesPerGlyph := headerField data 4
    let height := headerField data 5
    let width := headerField data 6
    withGlyphs data headerSize width height glyphCount bytesPerGlyph .v2

/-- Reads a font of either version. -/
def load (data : Array UInt8) : Except FontError Font :=
  if startsWith magic1 data then load1 data
  else if startsWith magic2 data then load2 data
  else if data.size < 4 then .error .notAPsfFont
  else .error .invalidMagic

end Font

end TouchPanel
