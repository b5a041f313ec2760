import Mathlib.Data.List.Basic
import TouchPanel.Json

/-!
# The text of a value

A text is the compact text of one value at most. It is read from the left: the first character tells
what kind of value there is, a number goes on as long as its characters do, a text up to the quotation
mark that is not escaped, and the rest up to the bracket that closes it. So each value is settled
already where it ends, whatever text comes after it (`Settled`).

* `unescape_escapeChar` — a character inside a text can be read back.
* `settled_quote`       — so a text in quotation marks is settled.
* `settled_items`       — values between commas are settled when each of them is.
* `settled_chars`       — every value is settled.
* `compact_injective`   — no two values have the same text.
-/

namespace TouchPanel.Json

-- ---------------------------------------------------------------------------
-- Reading from the left
-- ---------------------------------------------------------------------------

section Settled

variable {α : Type}

/-- Of two texts that begin with the text of a value, and go on as `follow` allows, one has the same
value at its beginning and the same rest as the other. -/
def Settled (chars : α → List Char) (follow : List Char → Prop) (a : α) : Prop :=
  ∀ b rest rest', follow rest → follow rest' → chars a ++ rest = chars b ++ rest' →
    a = b ∧ rest = rest'

/-- What comes after a value: nothing more, or a character that ends values. -/
def Ended (rest : List Char) : Prop := ∀ c ∈ rest.head?, c = ',' ∨ c = ']' ∨ c = '\x7d'

/-- What comes after a text or a list of values: the character that closes it, and anything. -/
def Closed (close : Char) (rest : List Char) : Prop := ∃ more, rest = close :: more

/-- Two texts that begin with characters of one sort and then go on with other ones begin with the
same of them. -/
theorem append_inj_of_all {p : Char → Bool} {run run' rest rest' : List Char}
    (hRun : ∀ c ∈ run, p c = true) (hRun' : ∀ c ∈ run', p c = true)
    (hRest : ∀ c ∈ rest.head?, p c = false) (hRest' : ∀ c ∈ rest'.head?, p c = false)
    (h : run ++ rest = run' ++ rest') : run = run' ∧ rest = rest' := by
  have hStop (more : List Char) (hMore : ∀ c ∈ more.head?, p c = false) :
      more.takeWhile p = [] := by
    cases more with
    | nil => rfl
    | cons c more => rw [List.takeWhile_cons, hMore c rfl, if_neg Bool.false_ne_true]
  have hSame := congrArg (List.takeWhile p) h
  rw [List.takeWhile_append_of_pos hRun, List.takeWhile_append_of_pos hRun', hStop rest hRest,
    hStop rest' hRest', List.append_nil, List.append_nil] at hSame
  exact ⟨hSame, List.append_cancel_left (hSame ▸ h)⟩

end Settled

-- ---------------------------------------------------------------------------
-- Numbers
-- ---------------------------------------------------------------------------

/-- The characters of whole numbers. -/
def isNumeral (c : Char) : Bool := c.isDigit || c == '-'

theorem isNumeral_of_mem_repr {n : Nat} {c : Char} (h : c ∈ n.repr.toList) : isNumeral c = true := by
  rw [Nat.repr_eq_ofList_toDigits, String.toList_ofList] at h
  rw [isNumeral, Nat.isDigit_of_mem_toDigits (by decide) (by decide) h, Bool.true_or]

theorem isNumeral_of_mem {n : Int} {c : Char} (h : c ∈ (toString n).toList) :
    isNumeral c = true := by
  rw [Int.toString_eq_repr, Int.repr_eq_if] at h
  split at h
  · exact isNumeral_of_mem_repr h
  · rw [String.toList_append, List.mem_append] at h
    rcases h with hSign | hDigit
    · obtain rfl := List.mem_singleton.mp hSign
      rfl
    · exact isNumeral_of_mem_repr hDigit

theorem eq_of_repr_eq {m n : Nat} (h : m.repr = n.repr) : m = n := by
  rw [Nat.repr_eq_ofList_toDigits, Nat.repr_eq_ofList_toDigits, String.ofList_inj] at h
  rw [← Nat.ofDigitChars_ten_toDigits (n := m), h, Nat.ofDigitChars_ten_toDigits]

/-- Digits do not begin with a sign. -/
theorem repr_ne_sign {m n : Nat} : m.repr ≠ "-" ++ n.repr := by
  intro h
  have hSign : '-' ∈ m.repr.toList := by
    rw [h, String.toList_append]
    exact List.mem_append_left _ List.mem_cons_self
  rw [Nat.repr_eq_ofList_toDigits, String.toList_ofList] at hSign
  exact absurd (Nat.isDigit_of_mem_toDigits (by decide) (by decide) hSign) (by decide)

theorem eq_of_toString_eq {m n : Int} (h : toString m = toString n) : m = n := by
  rw [Int.toString_eq_repr, Int.toString_eq_repr, Int.repr_eq_if, Int.repr_eq_if] at h
  split at h <;> split at h
  · have hSame := eq_of_repr_eq h
    omega
  · exact absurd h repr_ne_sign
  · exact absurd h.symm repr_ne_sign
  · have hSame := eq_of_repr_eq (String.append_right_inj _ |>.mp h)
    omega

/-- A whole number is settled where something else than one of its characters follows. -/
theorem settled_toString (n : Int) :
    Settled (fun n : Int => (toString n).toList) (fun rest => ∀ c ∈ rest.head?, isNumeral c = false)
      n := by
  intro m rest rest' hRest hRest' h
  obtain ⟨hSame, hRests⟩ := append_inj_of_all (fun c hc => isNumeral_of_mem hc)
    (fun c hc => isNumeral_of_mem hc) hRest hRest' h
  exact ⟨eq_of_toString_eq (String.toList_inj.mp hSame), hRests⟩

-- ---------------------------------------------------------------------------
-- Texts in quotation marks
-- ---------------------------------------------------------------------------

/-- The value of a hexadecimal digit. -/
def digitValue (digit : Char) : Nat :=
  if digit.isDigit then digit.toNat - '0'.toNat else digit.toNat - 'a'.toNat + 10

/-- Reads a character inside a text back. -/
def unescape : List Char → Option (Char × List Char)
  | [] => none
  | '\\' :: '"' :: rest => some ('"', rest)
  | '\\' :: '\\' :: rest => some ('\\', rest)
  | '\\' :: 'n' :: rest => some ('\n', rest)
  | '\\' :: 'r' :: rest => some ('\r', rest)
  | '\\' :: 't' :: rest => some ('\t', rest)
  | '\\' :: 'b' :: rest => some ('\x08', rest)
  | '\\' :: 'f' :: rest => some ('\x0c', rest)
  | '\\' :: 'u' :: '0' :: '0' :: high :: low :: rest =>
      some (Char.ofNat (16 * digitValue high + digitValue low), rest)
  | '\\' :: _ => none
  | c :: rest => some (c, rest)

theorem digitValue_digitChar : ∀ n < 16, digitValue (Nat.digitChar n) = n := by decide

theorem unescape_escapeChar (c : Char) (rest : List Char) :
    unescape ((escapeChar c).toList ++ rest) = some (c, rest) := by
  unfold escapeChar
  split
  · subst c; rfl
  split
  · subst c; rfl
  split
  · subst c; rfl
  split
  · subst c; rfl
  split
  · subst c; rfl
  split
  · subst c; rfl
  split
  · subst c; rfl
  split
  · rename_i hControl
    have hHigh := digitValue_digitChar (c.toNat / 16) (by omega)
    have hLow := digitValue_digitChar (c.toNat % 16) (by omega)
    rw [String.toList_ofList]
    simp only [List.cons_append, List.nil_append, unescape, hHigh, hLow, Nat.div_add_mod,
      Char.ofNat_toNat]
  · rename_i hOther _ _ _ _ _ _
    rw [String.toList_singleton, List.singleton_append]
    unfold unescape
    split <;> simp_all

/-- The characters inside of a text. -/
def escaped (chars : List Char) : List Char := chars.flatMap fun c => (escapeChar c).toList

theorem toList_quote (text : String) :
    (quote text).toList = '"' :: (escaped text.toList ++ ['"']) := by
  rw [quote, String.toList_append, String.toList_append, String.toList_join, List.flatMap_map]
  rfl

/-- No character begins with a quotation mark inside of a text. -/
theorem escapeChar_append_ne (c : Char) (rest rest' : List Char) :
    (escapeChar c).toList ++ rest ≠ '"' :: rest' := by
  intro h
  have hRead := unescape_escapeChar c rest
  rw [h] at hRead
  obtain ⟨rfl, -⟩ := Prod.mk.inj (Option.some.inj hRead)
  have hFirst : '\\' = '"' := (List.cons.inj h).1
  exact absurd hFirst (by decide)

theorem settled_escaped (chars : List Char) :
    Settled escaped (Closed '"') chars := by
  intro chars' rest rest' hRest hRest' h
  obtain ⟨more, rfl⟩ := hRest
  obtain ⟨more', rfl⟩ := hRest'
  induction chars generalizing chars' with
  | nil =>
    cases chars' with
    | nil => exact ⟨rfl, h⟩
    | cons c chars' =>
      rw [escaped, escaped, List.flatMap_cons, List.append_assoc] at h
      exact absurd h.symm (escapeChar_append_ne c _ _)
  | cons c chars ih =>
    cases chars' with
    | nil =>
      rw [escaped, escaped, List.flatMap_cons, List.append_assoc] at h
      exact absurd h (escapeChar_append_ne c _ _)
    | cons c' chars' =>
      rw [escaped, escaped, List.flatMap_cons, List.flatMap_cons, List.append_assoc,
        List.append_assoc] at h
      have hRead := congrArg unescape h
      rw [unescape_escapeChar, unescape_escapeChar] at hRead
      obtain ⟨rfl, hMore⟩ := Prod.mk.inj (Option.some.inj hRead)
      obtain ⟨rfl, hRests⟩ := ih chars' hMore
      exact ⟨rfl, hRests⟩

theorem settled_quote (text : String) :
    Settled (fun text => (quote text).toList) (fun _ => True) text := by
  intro text' rest rest' _ _ h
  simp only [toList_quote, List.cons_append, List.append_assoc, List.nil_append] at h
  obtain ⟨hSame, hRests⟩ :=
    settled_escaped text.toList text'.toList _ _ ⟨_, rfl⟩ ⟨_, rfl⟩ (List.cons.inj h).2
  exact ⟨String.toList_inj.mp hSame, (List.cons.inj hRests).2⟩

-- ---------------------------------------------------------------------------
-- Values between commas
-- ---------------------------------------------------------------------------

section Items

variable {α : Type} {chars : α → List Char}

theorem ended_flatMap (items : List α) {close : Char} (hClose : close = ']' ∨ close = '\x7d')
    (rest : List Char) : Ended ((items.flatMap fun b => ',' :: chars b) ++ close :: rest) := by
  intro c hc
  cases items with
  | nil =>
    cases hc
    exact .inr hClose
  | cons b items =>
    cases hc
    exact .inl rfl

/-- More values, each of them after a comma. -/
theorem settled_more {close : Char} (hClose : close = ']' ∨ close = '\x7d') {items : List α}
    (hItems : ∀ a ∈ items, Settled chars Ended a) :
    Settled (fun items => items.flatMap fun b => ',' :: chars b)
      (Closed close) items := by
  intro items' rest rest' hRest hRest' h
  obtain ⟨more, rfl⟩ := hRest
  obtain ⟨more', rfl⟩ := hRest'
  have hComma : close ≠ ',' := by
    rcases hClose with rfl | rfl
    · decide
    · decide
  induction items generalizing items' with
  | nil =>
    cases items' with
    | nil => exact ⟨rfl, h⟩
    | cons b items' => exact absurd (List.cons.inj h).1 hComma
  | cons a items ih =>
    cases items' with
    | nil => exact absurd (List.cons.inj h).1.symm hComma
    | cons b items' =>
      simp only [List.flatMap_cons, List.cons_append, List.append_assoc] at h
      obtain ⟨rfl, hMore⟩ := hItems a List.mem_cons_self b _ _ (ended_flatMap items hClose _)
        (ended_flatMap items' hClose _) (List.cons.inj h).2
      obtain ⟨rfl, hRests⟩ := ih (fun b hb => hItems b (List.mem_cons_of_mem a hb)) items' hMore
      exact ⟨rfl, hRests⟩

/-- Values between commas. -/
def listed (chars : α → List Char) (items : List α) : List Char := [','].intercalate (items.map chars)

theorem listed_cons (a : α) (items : List α) :
    listed chars (a :: items) = chars a ++ items.flatMap fun b => ',' :: chars b := by
  induction items generalizing a with
  | nil => simp [listed, List.intercalate]
  | cons b items ih =>
    rw [listed, List.map_cons, List.map_cons, List.intercalate_cons_cons, ← List.map_cons, ← listed,
      ih, List.flatMap_cons]
    simp

/-- Values between commas, up to a bracket. No value begins with one. -/
theorem settled_items {close : Char} (hClose : close = ']' ∨ close = '\x7d')
    (hBegins : ∀ a rest rest', chars a ++ rest ≠ close :: rest') {items : List α}
    (hItems : ∀ a ∈ items, Settled chars Ended a) :
    Settled (listed chars) (Closed close) items := by
  intro items' rest rest' hRest hRest' h
  rcases items with - | ⟨a, items⟩ <;> rcases items' with - | ⟨b, items'⟩
  · exact ⟨rfl, h⟩
  · obtain ⟨more, rfl⟩ := hRest
    rw [listed_cons, List.append_assoc] at h
    exact absurd h.symm (hBegins b _ _)
  · obtain ⟨more', rfl⟩ := hRest'
    rw [listed_cons, List.append_assoc] at h
    exact absurd h (hBegins a _ _)
  · obtain ⟨more, rfl⟩ := id hRest
    obtain ⟨more', rfl⟩ := id hRest'
    rw [listed_cons, listed_cons, List.append_assoc, List.append_assoc] at h
    obtain ⟨rfl, hMore⟩ := hItems a List.mem_cons_self b _ _ (ended_flatMap items hClose _)
      (ended_flatMap items' hClose _) h
    obtain ⟨rfl, hRests⟩ := settled_more hClose
      (fun b hb => hItems b (List.mem_cons_of_mem a hb)) items' _ _ hRest hRest' hMore
    exact ⟨rfl, hRests⟩

end Items

-- ---------------------------------------------------------------------------
-- Kinds of values
-- ---------------------------------------------------------------------------

/-- What the first character of a value tells. -/
inductive Kind where
  | null
  | bool (value : Bool)
  | number
  | string
  | array
  | object

def kind : Json → Kind
  | null => .null
  | bool value => .bool value
  | integer _ => .number
  | decimal _ _ => .number
  | string _ => .string
  | array _ => .array
  | object _ => .object

/-- The kind of the values that begin with a character. -/
def kindOf (c : Char) : Option Kind :=
  if isNumeral c then some .number
  else if c = 'n' then some .null
  else if c = 't' then some (.bool true)
  else if c = 'f' then some (.bool false)
  else if c = '"' then some .string
  else if c = '[' then some .array
  else if c = '\x7b' then some .object
  else none

/-- The characters of a value. -/
def chars (v : Json) : List Char := (compact v).toList

theorem exists_toString_eq_cons (n : Int) :
    ∃ c more, (toString n).toList = c :: more ∧ isNumeral c = true := by
  cases hChars : (toString n).toList with
  | nil =>
    rw [String.toList_eq_nil_iff, Int.toString_eq_repr, Int.repr_eq_if] at hChars
    split at hChars
    · exact absurd hChars Nat.repr_ne_empty
    · rw [String.append_eq_empty_iff] at hChars
      exact absurd hChars.2 Nat.repr_ne_empty
  | cons c more =>
    exact ⟨c, more, rfl, isNumeral_of_mem (n := n) (hChars ▸ List.mem_cons_self)⟩

theorem kindOf_of_isNumeral {c : Char} (h : isNumeral c = true) : kindOf c = some .number := by
  rw [kindOf, if_pos h]

theorem compactItems_eq (items : List Json) : compactItems items = items.map compact := by
  induction items with
  | nil => rw [compactItems, List.map_nil]
  | cons item items ih => rw [compactItems, ih, List.map_cons]

theorem compactMembers_eq (members : List (String × Json)) :
    compactMembers members = members.map fun m => quote m.1 ++ ":" ++ compact m.2 := by
  induction members with
  | nil => rw [compactMembers, List.map_nil]
  | cons m members ih => rw [compactMembers, ih, List.map_cons]

/-- The characters of a member of an object. -/
def memberChars (m : String × Json) : List Char := (quote m.1).toList ++ ':' :: chars m.2

theorem chars_array (items : List Json) :
    chars (array items) = '[' :: (listed chars items ++ [']']) := by
  rw [chars, compact, compactItems_eq, String.toList_append, String.toList_append,
    String.toList_intercalate, List.map_map]
  rfl

theorem chars_object (members : List (String × Json)) :
    chars (object members) = '\x7b' :: (listed memberChars members ++ ['\x7d']) := by
  have hMember : (String.toList ∘ fun m : String × Json => quote m.1 ++ ":" ++ compact m.2) =
      memberChars := by
    funext m
    simp [memberChars, chars]
  rw [chars, compact, compactMembers_eq, String.toList_append, String.toList_append,
    String.toList_intercalate, List.map_map, hMember]
  rfl

theorem chars_integer (n : Int) : chars (integer n) = (toString n).toList := by
  rw [chars, compact]

theorem chars_decimal (mantissa : Int) (places : Nat) :
    chars (decimal mantissa places) =
      (toString mantissa).toList ++ 'e' :: '-' :: places.repr.toList := by
  rw [chars, compact, String.toList_append, String.toList_append, List.append_assoc]
  rfl

theorem chars_string (text : String) : chars (string text) = (quote text).toList := by
  rw [chars, compact]

/-- The first character of a value tells its kind. -/
theorem exists_chars_eq_cons (v : Json) : ∃ c more, chars v = c :: more ∧ kindOf c = some v.kind := by
  cases v with
  | null => exact ⟨_, _, by rw [chars, compact]; rfl, rfl⟩
  | bool value =>
    cases value with
    | true => exact ⟨_, _, by rw [chars, compact]; rfl, rfl⟩
    | false => exact ⟨_, _, by rw [chars, compact]; rfl, rfl⟩
  | integer n =>
    obtain ⟨c, more, hChars, hNumeral⟩ := exists_toString_eq_cons n
    exact ⟨c, more, by rw [chars_integer, hChars], kindOf_of_isNumeral hNumeral⟩
  | decimal mantissa places =>
    obtain ⟨c, more, hChars, hNumeral⟩ := exists_toString_eq_cons mantissa
    exact ⟨c, _, by rw [chars_decimal, hChars, List.cons_append], kindOf_of_isNumeral hNumeral⟩
  | string text => exact ⟨_, _, by rw [chars_string, toList_quote], rfl⟩
  | array items => exact ⟨_, _, chars_array items, rfl⟩
  | object members => exact ⟨_, _, chars_object members, rfl⟩

theorem kind_eq_of_append_eq {v w : Json} {rest rest' : List Char}
    (h : chars v ++ rest = chars w ++ rest') : v.kind = w.kind := by
  obtain ⟨c, more, hChars, hKind⟩ := exists_chars_eq_cons v
  obtain ⟨c', more', hChars', hKind'⟩ := exists_chars_eq_cons w
  rw [hChars, hChars'] at h
  rw [(List.cons.inj h).1, hKind'] at hKind
  exact (Option.some.inj hKind).symm

-- ---------------------------------------------------------------------------
-- Values
-- ---------------------------------------------------------------------------

/-- What ends a value does not go on with a number. -/
theorem Ended.not_isNumeral {rest : List Char} (h : Ended rest) :
    ∀ c ∈ rest.head?, isNumeral c = false := by
  intro c hc
  rcases h c hc with rfl | rfl | rfl <;> decide

/-- A number that goes on with an exponent is not ended. -/
theorem not_ended_decimal {more : List Char} : ¬Ended ('e' :: more) := by
  intro h
  rcases h 'e' rfl with hSame | hSame | hSame
  · exact absurd hSame (by decide)
  · exact absurd hSame (by decide)
  · exact absurd hSame (by decide)

theorem settled_null : Settled chars Ended null := by
  intro w rest rest' _ _ h
  have hKind := kind_eq_of_append_eq h
  cases w with
  | null => exact ⟨rfl, List.append_cancel_left h⟩
  | _ => cases hKind

theorem settled_bool (value : Bool) : Settled chars Ended (bool value) := by
  intro w rest rest' _ _ h
  have hKind := kind_eq_of_append_eq h
  cases w with
  | bool value' =>
    cases hKind
    exact ⟨rfl, List.append_cancel_left h⟩
  | _ => cases hKind

theorem settled_string (text : String) : Settled chars Ended (string text) := by
  intro w rest rest' _ _ h
  have hKind := kind_eq_of_append_eq h
  cases w with
  | string text' =>
    rw [chars_string, chars_string] at h
    obtain ⟨rfl, hRests⟩ := settled_quote text text' _ _ trivial trivial h
    exact ⟨rfl, hRests⟩
  | _ => cases hKind

theorem settled_integer (n : Int) : Settled chars Ended (integer n) := by
  intro w rest rest' hRest hRest' h
  have hKind := kind_eq_of_append_eq h
  cases w with
  | integer m =>
    rw [chars_integer, chars_integer] at h
    obtain ⟨rfl, hRests⟩ :=
      settled_toString n m _ _ hRest.not_isNumeral hRest'.not_isNumeral h
    exact ⟨rfl, hRests⟩
  | decimal mantissa places =>
    rw [chars_integer, chars_decimal, List.append_assoc] at h
    obtain ⟨-, hRests⟩ := settled_toString n mantissa _ _ hRest.not_isNumeral
      (fun c hc => by cases hc; rfl) h
    rw [hRests] at hRest
    exact absurd hRest not_ended_decimal
  | _ => cases hKind

theorem settled_decimal (mantissa : Int) (places : Nat) :
    Settled chars Ended (decimal mantissa places) := by
  intro w rest rest' hRest hRest' h
  have hKind := kind_eq_of_append_eq h
  cases w with
  | integer m =>
    rw [chars_integer, chars_decimal, List.append_assoc] at h
    obtain ⟨-, hRests⟩ := settled_toString mantissa m _ _ (fun c hc => by cases hc; rfl)
      hRest'.not_isNumeral h
    rw [← hRests] at hRest'
    exact absurd hRest' not_ended_decimal
  | decimal mantissa' places' =>
    rw [chars_decimal, chars_decimal, List.append_assoc, List.append_assoc] at h
    obtain ⟨rfl, hMore⟩ := settled_toString mantissa mantissa' _ _ (fun c hc => by cases hc; rfl)
      (fun c hc => by cases hc; rfl) h
    obtain ⟨hPlaces, hRests⟩ := append_inj_of_all (fun c hc => isNumeral_of_mem_repr hc)
      (fun c hc => isNumeral_of_mem_repr hc) hRest.not_isNumeral hRest'.not_isNumeral
      (List.cons.inj (List.cons.inj hMore).2).2
    rw [eq_of_repr_eq (String.toList_inj.mp hPlaces)]
    exact ⟨rfl, hRests⟩
  | _ => cases hKind

theorem settled_array {items : List Json} (hItems : ∀ v ∈ items, Settled chars Ended v) :
    Settled chars Ended (array items) := by
  intro w rest rest' _ _ h
  have hKind := kind_eq_of_append_eq h
  cases w with
  | array items' =>
    simp only [chars_array, List.cons_append, List.append_assoc, List.nil_append] at h
    have hBegins (v : Json) (rest rest' : List Char) : chars v ++ rest ≠ ']' :: rest' := by
      intro hSame
      obtain ⟨c, more, hChars, hFirst⟩ := exists_chars_eq_cons v
      rw [hChars] at hSame
      rw [(List.cons.inj hSame).1] at hFirst
      exact nomatch hFirst
    obtain ⟨rfl, hRests⟩ := settled_items (.inl rfl) hBegins hItems items' _ _ ⟨_, rfl⟩ ⟨_, rfl⟩
      (List.cons.inj h).2
    exact ⟨rfl, (List.cons.inj hRests).2⟩
  | _ => cases hKind

/-- A member is settled when its value is. -/
theorem settled_member {m : String × Json} (hValue : Settled chars Ended m.2) :
    Settled memberChars Ended m := by
  intro m' rest rest' hRest hRest' h
  rw [memberChars, memberChars, List.append_assoc, List.append_assoc] at h
  obtain ⟨hName, hMore⟩ := settled_quote m.1 m'.1 _ _ trivial trivial h
  obtain ⟨hSame, hRests⟩ := hValue m'.2 _ _ hRest hRest' (List.cons.inj hMore).2
  exact ⟨Prod.ext hName hSame, hRests⟩

theorem settled_object {members : List (String × Json)}
    (hMembers : ∀ m ∈ members, Settled chars Ended m.2) : Settled chars Ended (object members) := by
  intro w rest rest' _ _ h
  have hKind := kind_eq_of_append_eq h
  cases w with
  | object members' =>
    simp only [chars_object, List.cons_append, List.append_assoc, List.nil_append] at h
    have hBegins (m : String × Json) (rest rest' : List Char) :
        memberChars m ++ rest ≠ '\x7d' :: rest' := by
      intro hSame
      rw [memberChars, toList_quote] at hSame
      exact absurd (List.cons.inj hSame).1 (by decide)
    obtain ⟨rfl, hRests⟩ := settled_items (.inr rfl) hBegins
      (fun m hm => settled_member (hMembers m hm)) members' _ _ ⟨_, rfl⟩ ⟨_, rfl⟩
      (List.cons.inj h).2
    exact ⟨rfl, (List.cons.inj hRests).2⟩
  | _ => cases hKind

/-- The text of a value tells the value, whatever comes after it. -/
theorem settled_chars : ∀ v : Json, Settled chars Ended v
  | null => settled_null
  | bool value => settled_bool value
  | integer n => settled_integer n
  | decimal mantissa places => settled_decimal mantissa places
  | string text => settled_string text
  | array items => settled_array fun v _ => settled_chars v
  | object members => settled_object fun m _ => settled_chars m.2
termination_by v => sizeOf v
decreasing_by
  · have hLt := List.sizeOf_lt_of_mem ‹v ∈ items›
    rw [array.sizeOf_spec]
    omega
  · have hLt := List.sizeOf_lt_of_mem ‹m ∈ members›
    rw [object.sizeOf_spec]
    obtain ⟨name, v⟩ := m
    rw [Prod.mk.sizeOf_spec] at hLt
    show sizeOf v < 1 + sizeOf members
    omega

/-- **No two values have the same text.** -/
theorem compact_injective : Function.Injective compact := by
  intro v w h
  have hEnded : Ended [] := fun c hc => nomatch hc
  exact (settled_chars v w [] [] hEnded hEnded (congrArg (·.toList ++ []) h)).1

end TouchPanel.Json
