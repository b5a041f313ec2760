import TouchPanel.Word

/-!
# JSON values

The values that styles are stored as, their compact text, and the readers of single fields that
record decoders are made of. A reader either gives a value or says why it cannot: a field is
missing, or something is not of the type asked for.

Values and their text follow the documented behaviour of serde_json, and the readers that of serde:
a whole number is read if it is in the range of its type, and a number with a fraction or an
exponent is no whole number.
-/

namespace TouchPanel

/-- A JSON value. Numbers written with a fraction or an exponent are kept apart from whole ones,
because no field of a record accepts them, not even `1.0` or `1e2`. -/
inductive Json where
  | null
  | bool (value : Bool)
  | integer (value : Int)
  /-- The number `mantissa / 10 ^ places`. -/
  | decimal (mantissa : Int) (places : Nat)
  | string (text : String)
  | array (items : List Json)
  | object (members : List (String × Json))
  deriving Inhabited

namespace Json

/-! ## Compact text -/

/-- A character inside a JSON string. -/
def escapeChar (c : Char) : String :=
  if c = '"' then "\\\""
  else if c = '\\' then "\\\\"
  else if c = '\n' then "\\n"
  else if c = '\r' then "\\r"
  else if c = '\t' then "\\t"
  else if c = '\x08' then "\\b"
  else if c = '\x0c' then "\\f"
  else if c.toNat < 0x20 then
    String.ofList ['\\', 'u', '0', '0', Nat.digitChar (c.toNat / 16), Nat.digitChar (c.toNat % 16)]
  else String.singleton c

/-- A text between quotation marks. -/
def quote (text : String) : String :=
  "\"" ++ String.join (text.toList.map escapeChar) ++ "\""

mutual

/-- The text of a value, without any blank and with members in their given order. -/
def compact : Json → String
  | null => "null"
  | bool value => if value then "true" else "false"
  | integer value => toString value
  | decimal mantissa places => toString mantissa ++ "e-" ++ toString places
  | string text => quote text
  | array items => "[" ++ String.intercalate "," (compactItems items) ++ "]"
  | object members => "\x7b" ++ String.intercalate "," (compactMembers members) ++ "\x7d"

/-- The texts of the items of an array. -/
def compactItems : List Json → List String
  | [] => []
  | item :: rest => compact item :: compactItems rest

/-- The texts of the members of an object. -/
def compactMembers : List (String × Json) → List String
  | [] => []
  | (name, value) :: rest => (quote name ++ ":" ++ compact value) :: compactMembers rest

end

/-! ## Reading single fields -/

/-- Why a value is no record of the kind asked for. -/
inductive DecodeError where
  | missingField (name : String)
  | illTyped
  deriving DecidableEq, Repr

/-- The text of a decoding error, for those that name a field. -/
def DecodeError.message? : DecodeError → Option String
  | .missingField name => some s!"missing field `{name}`"
  | .illTyped => none

/-- A whole number from 0 to 255. -/
def toByte : Json → Except DecodeError UInt8
  | integer value =>
      if 0 ≤ value ∧ value.toNat < UInt8.size then .ok (UInt8.ofNat value.toNat)
      else .error .illTyped
  | _ => .error .illTyped

/-- A whole number in the range of a word. -/
def toWord : Json → Except DecodeError Word
  | integer value =>
      if 0 ≤ value ∧ value.toNat < 1 <<< 64 then .ok (UInt64.ofNat value.toNat)
      else .error .illTyped
  | _ => .error .illTyped

/-- The value of the first member of a name. -/
def member? (name : String) (members : List (String × Json)) : Option Json :=
  (members.find? (·.1 == name)).map (·.2)

/-- Reads a member if it is given. -/
def given {α : Type} (read : Json → Except DecodeError α) (name : String)
    (members : List (String × Json)) : Except DecodeError (Option α) :=
  match member? name members with
  | none => .ok none
  | some value => some <$> read value

/-- Insists that a member was given. -/
def required {α : Type} (name : String) : Option α → Except DecodeError α
  | none => .error (.missingField name)
  | some value => .ok value

/-- Reads the first of the remaining items of an array. -/
def nextItem {α : Type} (read : Json → Except DecodeError α) :
    List Json → Except DecodeError (α × List Json)
  | [] => .error .illTyped
  | item :: rest => do return (← read item, rest)

/-- Insists that no item of an array remains. -/
def noMoreItems : List Json → Except DecodeError Unit
  | [] => .ok ()
  | _ :: _ => .error .illTyped

end Json

end TouchPanel
