import TouchPanel.Color
import TouchPanel.Word

/-!
# Themes and styles

A `Theme` is a whole palette; a `Style` is the handful of parameters that one window or dialog
is drawn with.
-/

namespace TouchPanel

/-! ## Themes -/

/-- A palette. -/
structure Theme where
  background : Color
  surface : Color
  border : Color
  textPrimary : Color
  textSecondary : Color
  accentPrimary : Color
  accentPressed : Color
  deriving DecidableEq, Repr

/-- Light text on a dark ground, with green accents. -/
def Theme.dark : Theme where
  background := .rgb 0x0D 0x11 0x17
  surface := .rgb 0x16 0x1B 0x22
  border := .rgb 0x30 0x36 0x3D
  textPrimary := .rgb 0xF0 0xF6 0xFC
  textSecondary := .rgb 0xC9 0xD1 0xD9
  accentPrimary := .rgb 0x23 0x86 0x36
  accentPressed := .rgb 0x2E 0xA0 0x43

/-- Dark text on a light ground, with blue accents. -/
def Theme.light : Theme where
  background := .rgb 0xFF 0xFF 0xFF
  surface := .rgb 0xF6 0xF8 0xFA
  border := .rgb 0xD0 0xD7 0xDE
  textPrimary := .rgb 0x1F 0x23 0x28
  textSecondary := .rgb 0x42 0x4A 0x53
  accentPrimary := .rgb 0x09 0x69 0xDA
  accentPressed := .rgb 0x05 0x50 0xAE

/-! ## Styles -/

/-- The parameters that a window and its children are drawn with. -/
structure Style where
  /-- The ground of a window. -/
  mainColor : Color
  /-- The border of a window. -/
  frameColor : Color
  /-- The width of the border; a window without border has zero here. -/
  frameThickness : Word
  textColor : Color
  buttonColor : Color
  buttonPressedColor : Color
  /-- The gap between the border and the content, and between rows of content. -/
  padding : Word
  deriving DecidableEq, Repr

/-- The style that a theme gives a dialog. -/
def Style.ofTheme (theme : Theme) : Style where
  mainColor := theme.surface
  frameColor := theme.border
  frameThickness := 2
  textColor := theme.textPrimary
  buttonColor := theme.accentPrimary
  buttonPressedColor := theme.accentPressed
  padding := 8

/-- The style of the dark theme, used where none is given. -/
def Style.standard : Style := .ofTheme .dark

/-- The style with another border. -/
def Style.withFrame (style : Style) (thickness : Word) (color : Color) : Style :=
  { style with frameThickness := thickness, frameColor := color }

end TouchPanel
