import Mathlib.Data.List.Forall2
import Mathlib.Logic.Relation
import TouchPanel.Proofs.Json
import TouchPanel.Style.Json

/-!
# Styles in every form

A record that was written as an object can be written in other ways: its members may come in another
order, next to members with other names, or the values of its fields may be listed in an array. All
these forms are read as the same record, since each of these changes keeps what reading asks for: an
object has each field once, and an array has just the fields in their order (`IsRecord`). A style is
such a record of which some fields are records themselves.

* `IsRecord.rewrites`     — another order, more members, or an array instead: the record is the same.
* `IsRecord.inside`       — so it is after a change of one of its values that keeps the field.
* `isWritten_of_rewrites` — hence after any number of changes of a style and of its colours.
* `ofJson_rewrites`       — a style is read from its text, and from every form of it.
-/

namespace TouchPanel

-- ---------------------------------------------------------------------------
-- Records
-- ---------------------------------------------------------------------------

namespace Json

/-- A change of a record with fields of the given names, which are in the order of their
declaration. -/
inductive Rewrites (names : List String) : Json → Json → Prop where
  /-- The members of an object are put in another order. -/
  | reorder {members members' : List (String × Json)} (h : members.Perm members') :
      Rewrites names (.object members) (.object members')
  /-- An object gets one more member, which is no field. -/
  | add {members : List (String × Json)} (name : String) (value : Json) (h : name ∉ names) :
      Rewrites names (.object members) (.object ((name, value) :: members))
  /-- Instead of an object there is the array of the values of its fields. -/
  | enumerate {members : List (String × Json)} {items : List Json}
      (h : names.map (member? · members) = items.map some) :
      Rewrites names (.object members) (.array items)

/-- A change of one of the values in an object or an array. -/
inductive Inside (change : Json → Json → Prop) : Json → Json → Prop where
  | member {before after : List (String × Json)} {name : String} {v w : Json} (h : change v w) :
      Inside change (.object (before ++ (name, v) :: after)) (.object (before ++ (name, w) :: after))
  | item {before after : List Json} {v w : Json} (h : change v w) :
      Inside change (.array (before ++ v :: after)) (.array (before ++ w :: after))

/-- A value is a record with the given fields, each of which has its own condition: an object that
has each field once, or an array of the fields in their order. -/
def IsRecord (fields : List (String × (Json → Prop))) : Json → Prop
  | .object members => ∀ field ∈ fields, ∃ value,
      members.filter (·.1 == field.1) = [(field.1, value)] ∧ field.2 value
  | .array items => List.Forall₂ (fun field item => field.2 item) fields items
  | _ => False

variable {fields : List (String × (Json → Prop))} {change : Json → Json → Prop} {v w : Json}

theorem member?_of_filter_eq {name : String} {members : List (String × Json)} {value : Json}
    (h : members.filter (·.1 == name) = [(name, value)]) : member? name members = some value := by
  rw [member?, ← List.head?_filter, h]
  rfl

/-- An object that is a record has the values of the fields. -/
theorem forall₂_of_enumerate {members : List (String × Json)} {items : List Json}
    (hMembers : IsRecord fields (.object members))
    (h : (fields.map (·.1)).map (member? · members) = items.map some) :
    List.Forall₂ (fun field item => field.2 item) fields items := by
  induction fields generalizing items with
  | nil =>
    obtain rfl := List.map_eq_nil_iff.mp h.symm
    exact .nil
  | cons field fields ih =>
    cases items with
    | nil => exact nomatch h
    | cons item items =>
      obtain ⟨hItem, hItems⟩ := List.cons.inj h
      obtain ⟨value, hOnce, hValue⟩ := hMembers field List.mem_cons_self
      obtain rfl := Option.some.inj ((member?_of_filter_eq hOnce).symm.trans hItem)
      exact .cons hValue (ih (fun other hOther => hMembers other (List.mem_cons_of_mem _ hOther)) hItems)

/-- **A record is the same in every form.** -/
theorem IsRecord.rewrites (hv : IsRecord fields v) (h : Rewrites (fields.map (·.1)) v w) :
    IsRecord fields w := by
  cases h with
  | reorder hPerm =>
    intro field hField
    obtain ⟨value, hOnce, hValue⟩ := hv field hField
    refine ⟨value, List.singleton_perm.mp ?_ |>.symm, hValue⟩
    rw [← hOnce]
    exact hPerm.filter _
  | add name value hOther =>
    intro field hField
    obtain ⟨known, hOnce, hKnown⟩ := hv field hField
    have hDiffers : (name == field.1) = false := by
      rw [beq_eq_false_iff_ne]
      rintro rfl
      exact hOther (List.mem_map_of_mem hField)
    refine ⟨known, ?_, hKnown⟩
    rw [List.filter_cons_of_neg (by rw [hDiffers]; exact Bool.false_ne_true)]
    exact hOnce
  | enumerate hItems => exact forall₂_of_enumerate hv hItems

theorem forall₂_of_replace {before after : List Json} {v w : Json}
    (hKeeps : ∀ field ∈ fields, field.2 v → field.2 w)
    (h : List.Forall₂ (fun field item => field.2 item) fields (before ++ v :: after)) :
    List.Forall₂ (fun field item => field.2 item) fields (before ++ w :: after) := by
  induction before generalizing fields with
  | nil =>
    cases h with
    | cons hFirst hRest => exact .cons (hKeeps _ List.mem_cons_self hFirst) hRest
  | cons item before ih =>
    cases h with
    | cons hFirst hRest =>
      exact .cons hFirst (ih (fun field hField => hKeeps field (List.mem_cons_of_mem _ hField)) hRest)

/-- A change of one of the values that keeps the condition of each field keeps the record. -/
theorem IsRecord.inside (hv : IsRecord fields v)
    (hKeeps : ∀ field ∈ fields, ∀ v w, change v w → field.2 v → field.2 w)
    (h : Inside change v w) : IsRecord fields w := by
  cases h with
  | @member before after name v w hChange =>
    intro field hField
    obtain ⟨value, hOnce, hValue⟩ := hv field hField
    rw [List.filter_append] at hOnce ⊢
    by_cases hName : (name == field.1) = true
    · -- the changed member is the only one of this name
      have hFound (v : Json) : ((name, v) :: after).filter (·.1 == field.1) =
          (name, v) :: after.filter (·.1 == field.1) := List.filter_cons_of_pos hName
      rw [hFound, List.append_eq_singleton_iff] at hOnce
      rw [hFound]
      rcases hOnce with ⟨hBefore, hOnly⟩ | ⟨-, hNone⟩
      · obtain ⟨hMember, hAfter⟩ := List.cons.inj hOnly
        cases hMember
        exact ⟨w, by rw [hBefore, hAfter]; rfl, hKeeps field hField _ _ hChange hValue⟩
      · cases hNone
    · have hOther (v : Json) : ((name, v) :: after).filter (·.1 == field.1) =
          after.filter (·.1 == field.1) := List.filter_cons_of_neg hName
      rw [hOther] at hOnce ⊢
      exact ⟨value, hOnce, hValue⟩
  | item hChange => exact forall₂_of_replace (fun field hField => hKeeps field hField _ _ hChange) hv

-- ---------------------------------------------------------------------------
-- Reading a record
-- ---------------------------------------------------------------------------

/-- A field of an object is read if there is one member of its name, which can be read. -/
theorem given_of_record {α : Type} {read : Json → Except DecodeError α} {a : α} {name : String}
    {members : List (String × Json)}
    (h : ∃ value, members.filter (·.1 == name) = [(name, value)] ∧ read value = .ok a) :
    given read name members = .ok (some a) := by
  obtain ⟨value, hOnce, hRead⟩ := h
  rw [given, member?_of_filter_eq hOnce]
  show some <$> read value = _
  rw [hRead]
  rfl

/-- An item of an array is read if it can be. -/
theorem nextItem_of_ok {α : Type} {read : Json → Except DecodeError α} {a : α} {item : Json}
    (h : read item = .ok a) (rest : List Json) : nextItem read (item :: rest) = .ok (a, rest) := by
  rw [nextItem, h]
  rfl

end Json

namespace Color

/-- The names of the channels, as they are declared. -/
def names : List String := ["r", "g", "b", "a"]

/-- The channels of a colour, each of which is to be read from the value of its field. -/
def fields (c : Color) : List (String × (Json → Prop)) :=
  [("r", fun v => v.toByte = .ok c.r), ("g", fun v => v.toByte = .ok c.g),
    ("b", fun v => v.toByte = .ok c.b), ("a", fun v => v.toByte = .ok c.a)]

/-- A value is a form of a colour. -/
def IsWritten (c : Color) (v : Json) : Prop := Json.IsRecord c.fields v

theorem toByte_integer (byte : UInt8) : Json.toByte (.integer byte.toNat) = .ok byte := by
  rw [Json.toByte, if_pos ⟨Int.natCast_nonneg _, byte.toNat_lt⟩, Int.toNat_natCast, UInt8.ofNat_toNat]

theorem isWritten_toJson (c : Color) : c.IsWritten c.toJson := by
  simp [IsWritten, toJson, Json.IsRecord, fields, toByte_integer]

/-- A colour is read from every form of it. -/
theorem ofJson_of_isWritten {c : Color} {v : Json} (h : c.IsWritten v) : ofJson v = .ok c := by
  cases v with
  | object members =>
    simp only [IsWritten, Json.IsRecord, fields, List.forall_mem_cons] at h
    obtain ⟨hR, hG, hB, hA, -⟩ := h
    simp only [ofJson, ofMembers, Json.given_of_record hR, Json.given_of_record hG,
      Json.given_of_record hB, Json.given_of_record hA]
    rfl
  | array items =>
    simp only [IsWritten, Json.IsRecord, fields, List.forall₂_cons_left_iff,
      List.forall₂_nil_left_iff] at h
    obtain ⟨_, _, hR, ⟨_, _, hG, ⟨_, _, hB, ⟨_, _, hA, rfl, rfl⟩, rfl⟩, rfl⟩, rfl⟩ := h
    simp only [ofJson, ofItems, Json.nextItem_of_ok hR, Json.nextItem_of_ok hG,
      Json.nextItem_of_ok hB, Json.nextItem_of_ok hA, bind, Except.bind]
    rfl
  | _ => exact h.elim

end Color

namespace Style

/-- The names of the fields, as they are declared. -/
def names : List String :=
  ["main_color", "frame_color", "frame_thickness", "text_color", "button_color",
    "button_pressed_color", "padding"]

/-- The fields of a style, each of which is a form of a colour or a number. -/
def fields (s : Style) : List (String × (Json → Prop)) :=
  [("main_color", s.mainColor.IsWritten), ("frame_color", s.frameColor.IsWritten),
    ("frame_thickness", fun v => v.toWord = .ok s.frameThickness),
    ("text_color", s.textColor.IsWritten), ("button_color", s.buttonColor.IsWritten),
    ("button_pressed_color", s.buttonPressedColor.IsWritten),
    ("padding", fun v => v.toWord = .ok s.padding)]

/-- A value is a form of a style. -/
def IsWritten (s : Style) (v : Json) : Prop := Json.IsRecord s.fields v

theorem toWord_integer (word : Word) : Json.toWord (.integer word.toNat) = .ok word := by
  rw [Json.toWord, if_pos ⟨Int.natCast_nonneg _, word.toNat_lt⟩, Int.toNat_natCast,
    UInt64.ofNat_toNat]

theorem isWritten_toJson (s : Style) : s.IsWritten s.toJson := by
  simp [IsWritten, toJson, Json.IsRecord, fields, toWord_integer, Color.isWritten_toJson]

/-- A style is read from every form of it. -/
theorem ofJson_of_isWritten {s : Style} {v : Json} (h : s.IsWritten v) : ofJson v = .ok s := by
  cases v with
  | object members =>
    simp only [IsWritten, Json.IsRecord, fields, List.forall_mem_cons] at h
    obtain ⟨hMain, hFrame, hThickness, hText, hButton, hPressed, hPadding, -⟩ := h
    have hColor {c : Color} {name : String} (h : ∃ value,
        members.filter (·.1 == name) = [(name, value)] ∧ c.IsWritten value) :
        Json.given Color.ofJson name members = .ok (some c) := by
      obtain ⟨value, hOnce, hValue⟩ := h
      exact Json.given_of_record ⟨value, hOnce, Color.ofJson_of_isWritten hValue⟩
    simp only [ofJson, ofMembers, hColor hMain, hColor hFrame, Json.given_of_record hThickness,
      hColor hText, hColor hButton, hColor hPressed, Json.given_of_record hPadding]
    rfl
  | array items =>
    simp only [IsWritten, Json.IsRecord, fields, List.forall₂_cons_left_iff,
      List.forall₂_nil_left_iff] at h
    obtain ⟨_, _, hMain, ⟨_, _, hFrame, ⟨_, _, hThickness, ⟨_, _, hText, ⟨_, _, hButton,
      ⟨_, _, hPressed, ⟨_, _, hPadding, rfl, rfl⟩, rfl⟩, rfl⟩, rfl⟩, rfl⟩, rfl⟩, rfl⟩ := h
    have hColor {c : Color} {item : Json} (h : c.IsWritten item) (rest : List Json) :
        Json.nextItem Color.ofJson (item :: rest) = .ok (c, rest) :=
      Json.nextItem_of_ok (Color.ofJson_of_isWritten h) rest
    simp only [ofJson, ofItems, hColor hMain, hColor hFrame, Json.nextItem_of_ok hThickness,
      hColor hText, hColor hButton, hColor hPressed, Json.nextItem_of_ok hPadding, bind, Except.bind]
    rfl
  | _ => exact h.elim

/-- A change of how a style is written: one of the style itself, or one of a colour in it. -/
inductive Rewrites : Json → Json → Prop where
  | style {v w : Json} (h : Json.Rewrites names v w) : Rewrites v w
  | color {v w : Json} (h : Json.Inside (Json.Rewrites Color.names) v w) : Rewrites v w

/-- A number is no object or array, so a change of a colour is none of a number. -/
theorem toWord_of_rewrites {names : List String} {v w : Json} (h : Json.Rewrites names v w)
    {word : Word} : Json.toWord v ≠ .ok word := by
  cases h <;> exact fun hWord => nomatch hWord

/-- After one change there still is a form of the style. -/
theorem IsWritten.rewrites {s : Style} {v w : Json} (hv : s.IsWritten v) (h : Rewrites v w) :
    s.IsWritten w := by
  cases h with
  | style hStyle => exact Json.IsRecord.rewrites hv hStyle
  | color hColor =>
    refine Json.IsRecord.inside hv ?_ hColor
    simp only [fields, List.forall_mem_cons]
    have hKeeps (c : Color) (v w : Json) (h : Json.Rewrites Color.names v w)
        (hv : c.IsWritten v) : c.IsWritten w := Json.IsRecord.rewrites hv h
    have hNumber (word : Word) (v w : Json) (h : Json.Rewrites Color.names v w)
        (hv : v.toWord = .ok word) : w.toWord = .ok word := absurd hv (toWord_of_rewrites h)
    exact ⟨hKeeps _, hKeeps _, hNumber _, hKeeps _, hKeeps _, hKeeps _, hNumber _,
      fun _ h => nomatch h⟩

/-- After any number of changes there still is one. -/
theorem isWritten_of_rewrites {s : Style} {v : Json}
    (h : Relation.ReflTransGen Rewrites s.toJson v) : s.IsWritten v := by
  induction h with
  | refl => exact isWritten_toJson s
  | tail _ hChange ih => exact ih.rewrites hChange

/-- **A style survives being written, in every form.** It is read from the only value that has the
text of the style; and it is read from all values that come from this one by changes of how the style
and the colours in it are written. -/
theorem ofJson_rewrites (s : Style) :
    (∀ v : Json, v.compact = s.toJson.compact → ofJson v = .ok s) ∧
    ∀ v : Json, Relation.ReflTransGen Rewrites s.toJson v → ofJson v = .ok s := by
  constructor
  · intro v hText
    rw [Json.compact_injective hText]
    exact ofJson_of_isWritten (isWritten_toJson s)
  · intro v hChanges
    exact ofJson_of_isWritten (isWritten_of_rewrites hChanges)

/-- The standard style as an array, in which the first colour has one more member and its channels
the other way round, and the second one is an array. -/
def listedForm : Json :=
  .array [.object [("a", .integer 255), ("b", .integer 34), ("g", .integer 27), ("r", .integer 22),
      ("hint", .null)],
    .array [.integer 48, .integer 54, .integer 61, .integer 255], .integer 2,
    standard.textColor.toJson, standard.buttonColor.toJson, standard.buttonPressedColor.toJson,
    .integer 8]

theorem ofJson_rewrites_listedForm :
    Relation.ReflTransGen Rewrites standard.toJson listedForm ∧ ofJson listedForm = .ok standard ∧
    ofJson standard.toJson = .ok standard := by
  have hChanges : Relation.ReflTransGen Rewrites standard.toJson listedForm := by
    refine .head (.style (@Json.Rewrites.enumerate _ _ [standard.mainColor.toJson,
      standard.frameColor.toJson, .integer 2, standard.textColor.toJson,
      standard.buttonColor.toJson, standard.buttonPressedColor.toJson, .integer 8] rfl)) ?_
    refine .head (.color (@Json.Inside.item _ [] _ _ _ (.add "hint" .null (by decide)))) ?_
    refine .head (.color (@Json.Inside.item _ [] _ _ _ (.reorder (List.reverse_perm _).symm))) ?_
    exact .single (.color (@Json.Inside.item _ [_] _ _ _ (.enumerate rfl)))
  obtain ⟨hText, hForms⟩ := ofJson_rewrites standard
  exact ⟨hChanges, hForms listedForm hChanges, hText _ rfl⟩

end Style

end TouchPanel
