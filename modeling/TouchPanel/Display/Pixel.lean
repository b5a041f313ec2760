import TouchPanel.Color
import TouchPanel.Word

/-!
# Pixels

A pixel is three or four bytes of display memory, one for each channel that the format keeps.
-/

namespace TouchPanel

/-- The order of the channels in the bytes of a pixel. -/
inductive PixelFormat where
  | rgb
  | bgr
  | rgba
  | bgra
  deriving DecidableEq, Repr

namespace PixelFormat

/-- The length of a pixel. -/
def bytesPerPixel : PixelFormat → Word
  | rgb | bgr => 3
  | rgba | bgra => 4

/-- The bytes of a pixel of the given colour. -/
def encode : PixelFormat → Color → List UInt8
  | rgb, c => [c.r, c.g, c.b]
  | bgr, c => [c.b, c.g, c.r]
  | rgba, c => [c.r, c.g, c.b, c.a]
  | bgra, c => [c.b, c.g, c.r, c.a]

theorem length_encode (format : PixelFormat) (c : Color) :
    (format.encode c).length = format.bytesPerPixel.toNat := by
  cases format <;> rfl

end PixelFormat

/-- Overwrites bytes from a place on; bytes past the end are dropped. -/
def writeBytes (memory : Array UInt8) (start : Nat) : List UInt8 → Array UInt8
  | [] => memory
  | byte :: rest => writeBytes (memory.setIfInBounds start byte) (start + 1) rest

/-- Inside the overwritten span there are the new bytes, and everywhere else the old ones. -/
theorem getElem?_writeBytes (memory : Array UInt8) (start : Nat) (bytes : List UInt8)
    (i : Nat) :
    (writeBytes memory start bytes)[i]? =
      if start ≤ i ∧ i < start + bytes.length ∧ i < memory.size then bytes[i - start]?
      else memory[i]? := by
  induction bytes generalizing memory start with
  | nil =>
    rw [writeBytes, if_neg]
    simp only [List.length_nil]
    omega
  | cons byte rest ih =>
    rw [writeBytes, ih, Array.size_setIfInBounds, Array.getElem?_setIfInBounds]
    simp only [List.length_cons]
    by_cases first : i = start
    · subst first
      rw [if_neg (by omega)]
      by_cases inside : i < memory.size <;> simp [inside]
    · by_cases later : start + 1 ≤ i
      · have shift : i - start = (i - (start + 1)) + 1 := by omega
        have other : start ≠ i := by omega
        rw [shift, List.getElem?_cons_succ, if_neg other]
        by_cases covered : i < start + 1 + rest.length ∧ i < memory.size
        · rw [if_pos ⟨later, covered⟩, if_pos (by omega)]
        · rw [if_neg (by omega), if_neg (by omega)]
      · rw [if_neg (by omega), if_neg (by omega), if_neg (by omega)]

/-- Writes the bytes of a pixel from a place on, `count` times one after the other. -/
def writePixels (memory : Array UInt8) (start : Nat) (pixel : List UInt8) : Nat → Array UInt8
  | 0 => memory
  | count + 1 =>
      writeBytes (writePixels memory start pixel count) (start + count * pixel.length) pixel

/-- Writes a colour to the start of a buffer, which must have room for a pixel. -/
def PixelFormat.writeColor (format : PixelFormat) (buffer : Array UInt8) (c : Color) :
    Except Fault (Array UInt8) :=
  if buffer.size < format.bytesPerPixel.toNat then
    .error .outOfRange
  else
    .ok (writeBytes buffer 0 (format.encode c))

end TouchPanel
