import TouchPanel.Json
import TouchPanel.Style

/-!
# Colours and styles as JSON

A record is written as an object with its fields in the order of their declaration. It is read
back from two shapes.

* **An object.** Members with other names are passed over. The members that are given are
  checked in ascending order of their names, and the first one of a wrong type is the error;
  only when all of them are good is the first missing field reported, in the order of
  declaration.
* **An array.** It holds exactly the fields in the order of their declaration. The items are
  checked in order, and a wrong number of them is reported last.

Both records are stored as serde's derive is documented to store them: a record with named fields is
written as a map, and read from a map or a sequence. The order of the checks in an object is that of
a serde_json value, which keeps the members of an object in ascending order of their names.
-/

namespace TouchPanel

open Json (DecodeError given required nextItem noMoreItems)

namespace Color

/-- The object that a colour is written as. -/
def toJson (c : Color) : Json :=
  .object [("r", .integer c.r.toNat), ("g", .integer c.g.toNat),
    ("b", .integer c.b.toNat), ("a", .integer c.a.toNat)]

/-- Reads a colour from the members of an object. -/
def ofMembers (members : List (String × Json)) : Except DecodeError Color := do
  let a ← given Json.toByte "a" members
  let b ← given Json.toByte "b" members
  let g ← given Json.toByte "g" members
  let r ← given Json.toByte "r" members
  let r ← required "r" r
  let g ← required "g" g
  let b ← required "b" b
  let a ← required "a" a
  return ⟨r, g, b, a⟩

/-- Reads a colour from the items of an array. -/
def ofItems (items : List Json) : Except DecodeError Color := do
  let (r, items) ← nextItem Json.toByte items
  let (g, items) ← nextItem Json.toByte items
  let (b, items) ← nextItem Json.toByte items
  let (a, items) ← nextItem Json.toByte items
  noMoreItems items
  return ⟨r, g, b, a⟩

/-- Reads a colour in either shape. -/
def ofJson : Json → Except DecodeError Color
  | .object members => ofMembers members
  | .array items => ofItems items
  | _ => .error .illTyped

end Color

namespace Style

/-- The object that a style is written as. -/
def toJson (s : Style) : Json :=
  .object [("main_color", s.mainColor.toJson), ("frame_color", s.frameColor.toJson),
    ("frame_thickness", .integer s.frameThickness.toNat), ("text_color", s.textColor.toJson),
    ("button_color", s.buttonColor.toJson),
    ("button_pressed_color", s.buttonPressedColor.toJson),
    ("padding", .integer s.padding.toNat)]

/-- Reads a style from the members of an object. -/
def ofMembers (members : List (String × Json)) : Except DecodeError Style := do
  let buttonColor ← given Color.ofJson "button_color" members
  let buttonPressedColor ← given Color.ofJson "button_pressed_color" members
  let frameColor ← given Color.ofJson "frame_color" members
  let frameThickness ← given Json.toWord "frame_thickness" members
  let mainColor ← given Color.ofJson "main_color" members
  let padding ← given Json.toWord "padding" members
  let textColor ← given Color.ofJson "text_color" members
  let mainColor ← required "main_color" mainColor
  let frameColor ← required "frame_color" frameColor
  let frameThickness ← required "frame_thickness" frameThickness
  let textColor ← required "text_color" textColor
  let buttonColor ← required "button_color" buttonColor
  let buttonPressedColor ← required "button_pressed_color" buttonPressedColor
  let padding ← required "padding" padding
  return { mainColor, frameColor, frameThickness, textColor, buttonColor,
           buttonPressedColor, padding }

/-- Reads a style from the items of an array. -/
def ofItems (items : List Json) : Except DecodeError Style := do
  let (mainColor, items) ← nextItem Color.ofJson items
  let (frameColor, items) ← nextItem Color.ofJson items
  let (frameThickness, items) ← nextItem Json.toWord items
  let (textColor, items) ← nextItem Color.ofJson items
  let (buttonColor, items) ← nextItem Color.ofJson items
  let (buttonPressedColor, items) ← nextItem Color.ofJson items
  let (padding, items) ← nextItem Json.toWord items
  noMoreItems items
  return { mainColor, frameColor, frameThickness, textColor, buttonColor,
           buttonPressedColor, padding }

/-- Reads a style in either shape. -/
def ofJson : Json → Except DecodeError Style
  | .object members => ofMembers members
  | .array items => ofItems items
  | _ => .error .illTyped

end Style

end TouchPanel
