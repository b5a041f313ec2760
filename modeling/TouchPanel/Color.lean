import TouchPanel.Fault

/-!
# Colours

A colour has four channels of eight bits. `Color.ofHex` reads the notations `rrggbb` and `rgb`,
in either letter case and with or without a leading number sign.
-/

namespace TouchPanel

/-- A colour: red, green, blue and opacity. -/
structure Color where
  r : UInt8
  g : UInt8
  b : UInt8
  a : UInt8
  deriving DecidableEq, Repr

namespace Color

/-- The opaque colour with the given channels. -/
def rgb (r g b : UInt8) : Color := ⟨r, g, b, 255⟩

/-- Opaque black. -/
def black : Color := rgb 0 0 0

/-- Opaque white. -/
def white : Color := rgb 255 255 255

/-- The channels in one number, from the opacity in the highest byte down to blue. -/
def toArgb32 (c : Color) : UInt32 :=
  c.a.toUInt32 <<< 24 ||| c.r.toUInt32 <<< 16 ||| c.g.toUInt32 <<< 8 ||| c.b.toUInt32

/-! ## Hexadecimal notation -/

/-- Why a text is no colour in hexadecimal notation. -/
inductive HexError where
  /-- A byte is no hexadecimal digit. -/
  | invalidHexChar
  /-- There are neither three nor six digits. -/
  | invalidLength
  deriving DecidableEq, Repr

/-- The value of a hexadecimal digit, in either letter case. -/
def hexDigit (byte : UInt8) : Except HexError UInt8 :=
  if 0x30 ≤ byte ∧ byte ≤ 0x39 then .ok (byte - 0x30)
  else if 0x41 ≤ byte ∧ byte ≤ 0x46 then .ok (byte - 0x41 + 10)
  else if 0x61 ≤ byte ∧ byte ≤ 0x66 then .ok (byte - 0x61 + 10)
  else .error .invalidHexChar

/-- The channel written as one digit, which stands for two equal ones. -/
def hexShort (digit : UInt8) : Except HexError UInt8 := do
  return (← hexDigit digit) * 17

/-- The channel written as two digits. -/
def hexPair (high low : UInt8) : Except HexError UInt8 := do
  let high ← hexDigit high
  let low ← hexDigit low
  return high * 16 + low

/-- The colour written by a list of digits. -/
def ofHexDigits : List UInt8 → Except HexError Color
  | [r, g, b] => do return rgb (← hexShort r) (← hexShort g) (← hexShort b)
  | [r₁, r₀, g₁, g₀, b₁, b₀] => do
      return rgb (← hexPair r₁ r₀) (← hexPair g₁ g₀) (← hexPair b₁ b₀)
  | _ => .error .invalidLength

/-- The bytes after one leading number sign, if there is one. -/
def dropNumberSign : List UInt8 → List UInt8
  | 0x23 :: rest => rest
  | bytes => bytes

/-- The colour that a text denotes. Lengths are counted in bytes of the text's UTF-8 form, and
a wrong length is reported before a wrong digit. -/
def ofHex (text : String) : Except HexError Color :=
  ofHexDigits (dropNumberSign text.toUTF8.data.toList)

end Color

end TouchPanel
