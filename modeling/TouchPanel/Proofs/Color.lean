import Mathlib.Data.List.Basic
import Mathlib.Data.List.Forall2
import TouchPanel.Color
import TouchPanel.Proofs.Bytes

/-!
# Which texts are colours

A text is a colour in hexadecimal notation if and only if there are three or six hexadecimal digits
and nothing else after one leading number sign, which may be missing. Digits are given their values
by `Spells`; the channels are stated in the natural numbers, where nothing wraps.

* `hexDigit_cases`  — a byte is read as the value that it spells.
* `ofHexChecked_eq` — no byte is looked for past the end, and no arithmetic on bytes overflows.
* `ofHex_hexText`   — a colour that is written is read again.
* `ofHex_exact`     — the notation, the two errors and the channels.
-/

namespace TouchPanel.Color

-- ---------------------------------------------------------------------------
-- Digits
-- ---------------------------------------------------------------------------

/-- The byte is the hexadecimal digit of a value, in either letter case. -/
def Spells (byte : UInt8) (value : Nat) : Prop :=
  value < 10 ∧ byte.toNat = '0'.toNat + value ∨
    10 ≤ value ∧ value < 16 ∧
      (byte.toNat + 10 = 'A'.toNat + value ∨ byte.toNat + 10 = 'a'.toNat + value)

instance (byte : UInt8) (value : Nat) : Decidable (Spells byte value) :=
  inferInstanceAs (Decidable (_ ∨ _))

/-- The byte is a hexadecimal digit. -/
def IsDigit (byte : UInt8) : Prop := ∃ value, Spells byte value

variable {byte : UInt8} {value : Nat}

theorem Spells.lt (h : Spells byte value) : value < 16 := by
  rcases h with ⟨hLt, -⟩ | ⟨-, hLt, -⟩
  · omega
  · exact hLt

theorem Spells.unique {other : Nat} (h : Spells byte value) (hOther : Spells byte other) :
    value = other := by
  simp only [Spells, Char.reduceToNat] at h hOther
  omega

/-- The value of a letter, given the first of its six. -/
theorem toNat_letter (first : UInt8) (hFrom : first.toNat ≤ byte.toNat)
    (hTo : byte.toNat ≤ first.toNat + 5) :
    (byte - first).toNat + 10 < 256 ∧
      (byte - first + 10).toNat = byte.toNat - first.toNat + 10 := by
  have hLetter : (byte - first).toNat = byte.toNat - first.toNat := Byte.toNat_sub_of_le hFrom
  have hSmall : (byte - first).toNat + 10 < 256 := by omega
  refine ⟨hSmall, ?_⟩
  rw [← hLetter]
  exact Byte.toNat_add_of_lt hSmall

/-- The three ranges of digits, and what a digit is read as in each. -/
theorem hexDigit_cases (byte : UInt8) :
    (∃ value d, Spells byte value ∧ hexDigit byte = .ok d ∧ d.toNat = value) ∨
      ¬IsDigit byte ∧ hexDigit byte = .error .invalidHexChar := by
  unfold hexDigit
  simp only [UInt8.le_iff_toNat_le, UInt8.reduceToNat]
  split
  · rename_i hRange
    have hDigit : (byte - 0x30).toNat = byte.toNat - 48 := Byte.toNat_sub_of_le hRange.1
    refine .inl ⟨byte.toNat - 48, _, .inl ⟨by omega, ?_⟩, rfl, hDigit⟩
    simp only [Char.reduceToNat]
    omega
  · split
    · rename_i hRange
      have hDigit : (byte - 0x41 + 10).toNat = byte.toNat - 65 + 10 :=
        (toNat_letter 0x41 hRange.1 hRange.2).2
      refine .inl ⟨byte.toNat - 55, _, .inr ⟨by omega, by omega, .inl ?_⟩, rfl, by omega⟩
      simp only [Char.reduceToNat]
      omega
    · split
      · rename_i hRange
        have hDigit : (byte - 0x61 + 10).toNat = byte.toNat - 97 + 10 :=
          (toNat_letter 0x61 hRange.1 hRange.2).2
        refine .inl ⟨byte.toNat - 87, _, .inr ⟨by omega, by omega, .inr ?_⟩, rfl, by omega⟩
        simp only [Char.reduceToNat]
        omega
      · refine .inr ⟨?_, rfl⟩
        rintro ⟨value, hSpells⟩
        simp only [Spells, Char.reduceToNat] at hSpells
        omega

/-- A digit is read as its value. -/
theorem exists_hexDigit (h : Spells byte value) :
    ∃ d, hexDigit byte = .ok d ∧ d.toNat = value := by
  rcases hexDigit_cases byte with ⟨value', d, hSpells, hRead, hValue⟩ | ⟨hNone, -⟩
  · exact ⟨d, hRead, hValue.trans (hSpells.unique h)⟩
  · exact absurd ⟨value, h⟩ hNone

/-- What is no digit is not read. -/
theorem hexDigit_of_not_isDigit (h : ¬IsDigit byte) : hexDigit byte = .error .invalidHexChar := by
  rcases hexDigit_cases byte with ⟨value, d, hSpells, -⟩ | ⟨-, hRead⟩
  · exact absurd ⟨value, hSpells⟩ h
  · exact hRead

theorem toNat_lt_of_hexDigit {d : UInt8} (h : hexDigit byte = .ok d) : d.toNat < 16 := by
  rcases hexDigit_cases byte with ⟨value, d', hSpells, hRead, rfl⟩ | ⟨-, hRead⟩
  · obtain rfl := Except.ok.inj (hRead.symm.trans h)
    exact hSpells.lt
  · exact absurd (hRead.symm.trans h) nofun

-- ---------------------------------------------------------------------------
-- Channels
-- ---------------------------------------------------------------------------

/-- A channel of two digits. -/
theorem exists_hexPair {high low : UInt8} {h l : Nat} (hHigh : Spells high h)
    (hLow : Spells low l) : ∃ d, hexPair high low = .ok d ∧ d.toNat = h * 16 + l := by
  obtain ⟨x, hx, rfl⟩ := exists_hexDigit hHigh
  obtain ⟨y, hy, rfl⟩ := exists_hexDigit hLow
  have hxLt := hHigh.lt
  have hyLt := hLow.lt
  have hShifted : (x * 16).toNat = x.toNat * 16 :=
    Byte.toNat_mul_of_lt (show x.toNat * 16 < 256 by omega)
  refine ⟨x * 16 + y, ?_, ?_⟩
  · rw [hexPair, hx, hy]
    rfl
  · rw [Byte.toNat_add_of_lt (by omega), hShifted]

/-- A channel of two digits, one of which is none. -/
theorem hexPair_of_not_isDigit {high low : UInt8} (h : ¬IsDigit high ∨ ¬IsDigit low) :
    hexPair high low = .error .invalidHexChar := by
  rw [hexPair]
  rcases hexDigit_cases high with ⟨value, d, hSpells, hRead, -⟩ | ⟨-, hRead⟩
  · have hLow : ¬IsDigit low := h.resolve_left (not_not_intro ⟨value, hSpells⟩)
    rw [hRead, hexDigit_of_not_isDigit hLow]
    rfl
  · rw [hRead]
    rfl

/-- One digit stands for two equal ones. -/
theorem hexShort_eq_hexPair (digit : UInt8) : hexShort digit = hexPair digit digit := by
  rw [hexShort, hexPair]
  rcases hRead : hexDigit digit with error | d
  · rfl
  · have hLt := toNat_lt_of_hexDigit hRead
    have hTwice : d * 17 = d * 16 + d := by
      have hLong : (d * 17).toNat = d.toNat * 17 :=
        Byte.toNat_mul_of_lt (show d.toNat * 17 < 256 by omega)
      have hHigh : (d * 16).toNat = d.toNat * 16 :=
        Byte.toNat_mul_of_lt (show d.toNat * 16 < 256 by omega)
      rw [← UInt8.toNat_inj, Byte.toNat_add_of_lt (by omega)]
      omega
    exact congrArg Except.ok hTwice

-- ---------------------------------------------------------------------------
-- Lists of digits
-- ---------------------------------------------------------------------------

/-- Three digits are read as six, of which the neighbours are equal. -/
theorem ofHexDigits_three (r g b : UInt8) :
    ofHexDigits [r, g, b] = ofHexDigits [r, r, g, g, b, b] := by
  simp only [ofHexDigits, hexShort_eq_hexPair]

/-- Six digits are the channels of an opaque colour. -/
theorem exists_ofHexDigits_six {rest : List UInt8} {d₁ d₂ d₃ d₄ d₅ d₆ : Nat}
    (h : List.Forall₂ Spells rest [d₁, d₂, d₃, d₄, d₅, d₆]) :
    ∃ c, ofHexDigits rest = .ok c ∧ c.r.toNat = d₁ * 16 + d₂ ∧ c.g.toNat = d₃ * 16 + d₄ ∧
      c.b.toNat = d₅ * 16 + d₆ ∧ c.a = 255 := by
  rcases h with - | ⟨h₁, - | ⟨h₂, - | ⟨h₃, - | ⟨h₄, - | ⟨h₅, - | ⟨h₆, ⟨⟩⟩⟩⟩⟩⟩⟩
  obtain ⟨r, hRead₁, hr⟩ := exists_hexPair h₁ h₂
  obtain ⟨g, hRead₂, hg⟩ := exists_hexPair h₃ h₄
  obtain ⟨b, hRead₃, hb⟩ := exists_hexPair h₅ h₆
  refine ⟨rgb r g b, ?_, hr, hg, hb, rfl⟩
  rw [ofHexDigits, hRead₁, hRead₂, hRead₃]
  rfl

/-- Six bytes of which one is no digit. The first pair with such a byte decides. -/
theorem ofHexDigits_six_of_not_isDigit {r₁ r₀ g₁ g₀ b₁ b₀ : UInt8}
    (h : ∃ byte ∈ [r₁, r₀, g₁, g₀, b₁, b₀], ¬IsDigit byte) :
    ofHexDigits [r₁, r₀, g₁, g₀, b₁, b₀] = .error .invalidHexChar := by
  have hPair (high low : UInt8) : (∃ d, hexPair high low = .ok d) ∧ IsDigit high ∧ IsDigit low ∨
      hexPair high low = .error .invalidHexChar := by
    by_cases hDigits : IsDigit high ∧ IsDigit low
    · obtain ⟨⟨x, hHigh⟩, y, hLow⟩ := hDigits
      obtain ⟨d, hRead, -⟩ := exists_hexPair hHigh hLow
      exact .inl ⟨⟨d, hRead⟩, ⟨x, hHigh⟩, y, hLow⟩
    · exact .inr (hexPair_of_not_isDigit (not_and_or.mp hDigits))
  rw [ofHexDigits]
  rcases hPair r₁ r₀ with ⟨⟨r, hRead⟩, h₁, h₂⟩ | hRead
  · rw [hRead]
    rcases hPair g₁ g₀ with ⟨⟨g, hRead⟩, h₃, h₄⟩ | hRead
    · rw [hRead]
      have hLast : ¬IsDigit b₁ ∨ ¬IsDigit b₀ := by
        obtain ⟨byte, hMem, hNone⟩ := h
        simp only [List.mem_cons, List.not_mem_nil, or_false] at hMem
        rcases hMem with rfl | rfl | rfl | rfl | rfl | rfl
        · exact absurd h₁ hNone
        · exact absurd h₂ hNone
        · exact absurd h₃ hNone
        · exact absurd h₄ hNone
        · exact .inl hNone
        · exact .inr hNone
      rw [hexPair_of_not_isDigit hLast]
      rfl
    · rw [hRead]
      rfl
  · rw [hRead]
    rfl

/-- There are three ways in which reading ends. -/
theorem ofHexDigits_cases (rest : List UInt8) :
    ¬(rest.length = 3 ∨ rest.length = 6) ∧ ofHexDigits rest = .error .invalidLength ∨
    (rest.length = 3 ∨ rest.length = 6) ∧ (∃ byte ∈ rest, ¬IsDigit byte) ∧
      ofHexDigits rest = .error .invalidHexChar ∨
    (rest.length = 3 ∨ rest.length = 6) ∧ (∀ byte ∈ rest, IsDigit byte) ∧
      ∃ c, ofHexDigits rest = .ok c := by
  -- three bytes are six, so the digits are looked through once
  have hSix (r₁ r₀ g₁ g₀ b₁ b₀ : UInt8) :
      (∃ byte ∈ [r₁, r₀, g₁, g₀, b₁, b₀], ¬IsDigit byte) ∧
        ofHexDigits [r₁, r₀, g₁, g₀, b₁, b₀] = .error .invalidHexChar ∨
      (∀ byte ∈ [r₁, r₀, g₁, g₀, b₁, b₀], IsDigit byte) ∧
        ∃ c, ofHexDigits [r₁, r₀, g₁, g₀, b₁, b₀] = .ok c := by
    by_cases hDigits : ∀ byte ∈ [r₁, r₀, g₁, g₀, b₁, b₀], IsDigit byte
    · obtain ⟨⟨d₁, h₁⟩, ⟨d₂, h₂⟩, ⟨d₃, h₃⟩, ⟨d₄, h₄⟩, ⟨d₅, h₅⟩, ⟨d₆, h₆⟩, -⟩ := by
        simpa only [List.forall_mem_cons] using hDigits
      obtain ⟨c, hRead, -⟩ := exists_ofHexDigits_six
        (.cons h₁ (.cons h₂ (.cons h₃ (.cons h₄ (.cons h₅ (.cons h₆ .nil))))))
      exact .inr ⟨hDigits, c, hRead⟩
    · have hNone : ∃ byte ∈ [r₁, r₀, g₁, g₀, b₁, b₀], ¬IsDigit byte := by
        simpa only [not_forall, exists_prop] using hDigits
      exact .inl ⟨hNone, ofHexDigits_six_of_not_isDigit hNone⟩
  by_cases hThree : rest.length = 3
  · obtain ⟨r, g, b, rfl⟩ := List.length_eq_three.mp hThree
    have hTwice : ∀ byte, byte ∈ [r, r, g, g, b, b] ↔ byte ∈ [r, g, b] := by
      intro byte
      simp only [List.mem_cons, List.not_mem_nil, or_false, or_self_left, or_self]
    have hCases := hSix r r g g b b
    simp only [hTwice, ← ofHexDigits_three] at hCases
    rcases hCases with ⟨hNone, hRead⟩ | ⟨hDigits, hRead⟩
    · exact .inr (.inl ⟨.inl rfl, hNone, hRead⟩)
    · exact .inr (.inr ⟨.inl rfl, hDigits, hRead⟩)
  · by_cases hLength : rest.length = 6
    · match rest, hLength with
      | [r₁, r₀, g₁, g₀, b₁, b₀], _ =>
        rcases hSix r₁ r₀ g₁ g₀ b₁ b₀ with ⟨hNone, hRead⟩ | ⟨hDigits, hRead⟩
        · exact .inr (.inl ⟨.inr rfl, hNone, hRead⟩)
        · exact .inr (.inr ⟨.inr rfl, hDigits, hRead⟩)
    · refine .inl ⟨fun h => h.elim hThree hLength, ?_⟩
      unfold ofHexDigits
      split
      · exact absurd rfl hThree
      · exact absurd rfl hLength
      · rfl

/-- When reading ends in which way. -/
theorem ofHexDigits_iff (rest : List UInt8) :
    ((∃ c, ofHexDigits rest = .ok c) ↔
      (rest.length = 3 ∨ rest.length = 6) ∧ ∀ byte ∈ rest, IsDigit byte) ∧
    (ofHexDigits rest = .error .invalidLength ↔ ¬(rest.length = 3 ∨ rest.length = 6)) ∧
    (ofHexDigits rest = .error .invalidHexChar ↔
      (rest.length = 3 ∨ rest.length = 6) ∧ ∃ byte ∈ rest, ¬IsDigit byte) := by
  rcases ofHexDigits_cases rest with ⟨hLength, hRead⟩ | ⟨hLength, hNone, hRead⟩ |
    ⟨hLength, hDigits, c, hRead⟩
  · rw [hRead]
    refine ⟨⟨nofun, fun h => absurd h.1 hLength⟩, ⟨fun _ => hLength, fun _ => rfl⟩, nofun,
      fun h => absurd h.1 hLength⟩
  · rw [hRead]
    obtain ⟨byte, hMem, hOther⟩ := hNone
    exact ⟨⟨nofun, fun h => absurd (h.2 byte hMem) hOther⟩, ⟨nofun, fun h => absurd hLength h⟩,
      fun _ => ⟨hLength, byte, hMem, hOther⟩, fun _ => rfl⟩
  · rw [hRead]
    refine ⟨⟨fun _ => ⟨hLength, hDigits⟩, fun _ => ⟨c, rfl⟩⟩, ⟨nofun, fun h => absurd hLength h⟩,
      nofun, ?_⟩
    rintro ⟨-, byte, hMem, hOther⟩
    exact absurd (hDigits byte hMem) hOther

-- ---------------------------------------------------------------------------
-- Number signs
-- ---------------------------------------------------------------------------

/-- The place after one leading number sign, if there is one. -/
def digitsStart (bytes : Array UInt8) : Nat :=
  if bytes[0]? = some 0x23 then 1 else 0

/-- The bytes of a text after one leading number sign, if there is one. -/
def digitBytes (text : String) : List UInt8 :=
  text.toUTF8.data.toList.drop (digitsStart text.toUTF8.data)

theorem digitsStart_le (bytes : Array UInt8) : digitsStart bytes ≤ bytes.size := by
  rw [digitsStart]
  split
  · rename_i hSign
    exact (Array.getElem?_eq_some_iff.mp hSign).1
  · exact Nat.zero_le _

theorem ofHex_eq (text : String) : ofHex text = ofHexDigits (digitBytes text) := by
  have hDrop (bytes : Array UInt8) :
      dropNumberSign bytes.toList = bytes.toList.drop (digitsStart bytes) := by
    rw [digitsStart, ← Array.getElem?_toList]
    rcases bytes.toList with - | ⟨first, rest⟩
    · rfl
    · by_cases hSign : first = 0x23
      · rw [hSign]
        rfl
      · have hOther : ¬(first :: rest)[0]? = some 0x23 := fun h => hSign (Option.some.inj h)
        rw [if_neg hOther]
        exact dropNumberSign.eq_2 _ fun _ h => hSign (List.cons.inj h).1
  rw [ofHex, hDrop, digitBytes]

-- ---------------------------------------------------------------------------
-- Faults
-- ---------------------------------------------------------------------------

/-- An answer to a question that did not fault. -/
def answered {α : Type} (answer : Except HexError α) : ExceptT HexError (Except Fault) α :=
  .mk (.ok answer)

theorem answered_bind {α β : Type} (answer : Except HexError α) (next : α → Except HexError β) :
    (answered answer >>= fun a => answered (next a)) = answered (answer >>= next) := by
  rcases answer with error | a
  · rfl
  · rfl

theorem pure_eq_answered {α : Type} (a : α) :
    (pure a : ExceptT HexError (Except Fault) α) = answered (pure a) := rfl

/-- `hexDigit`, with a fault where arithmetic overflows. -/
def hexDigitChecked (byte : UInt8) : ExceptT HexError (Except Fault) UInt8 := do
  if 0x30 ≤ byte ∧ byte ≤ 0x39 then
    Byte.subExact byte 0x30
  else if 0x41 ≤ byte ∧ byte ≤ 0x46 then
    Byte.addExact (← Byte.subExact byte 0x41) 10
  else if 0x61 ≤ byte ∧ byte ≤ 0x66 then
    Byte.addExact (← Byte.subExact byte 0x61) 10
  else
    throw .invalidHexChar

/-- `hexShort`, with a fault where arithmetic overflows. -/
def hexShortChecked (digit : UInt8) : ExceptT HexError (Except Fault) UInt8 := do
  Byte.mulExact (← hexDigitChecked digit) 17

/-- `hexPair`, put together from bits. -/
def hexPairChecked (high low : UInt8) : ExceptT HexError (Except Fault) UInt8 := do
  let high ← hexDigitChecked high
  let low ← hexDigitChecked low
  return high <<< 4 ||| low

/-- The colour of three digits, with a fault for a byte past the end. -/
def threeChecked (bytes : Array UInt8) (start : Nat) :
    ExceptT HexError (Except Fault) Color := do
  let r ← hexShortChecked (← Bytes.get bytes start)
  let g ← hexShortChecked (← Bytes.get bytes (start + 1))
  let b ← hexShortChecked (← Bytes.get bytes (start + 2))
  return rgb r g b

/-- The colour of six digits, with a fault for a byte past the end. -/
def sixChecked (bytes : Array UInt8) (start : Nat) :
    ExceptT HexError (Except Fault) Color := do
  let r ← hexPairChecked (← Bytes.get bytes start) (← Bytes.get bytes (start + 1))
  let g ← hexPairChecked (← Bytes.get bytes (start + 2)) (← Bytes.get bytes (start + 3))
  let b ← hexPairChecked (← Bytes.get bytes (start + 4)) (← Bytes.get bytes (start + 5))
  return rgb r g b

/-- `ofHex`, with a fault for a byte past the end and where arithmetic overflows. -/
def ofHexChecked (text : String) : ExceptT HexError (Except Fault) Color := do
  let bytes := text.toUTF8.data
  match ← Bytes.countFrom bytes (digitsStart bytes) with
  | 3 => threeChecked bytes (digitsStart bytes)
  | 6 => sixChecked bytes (digitsStart bytes)
  | _ => throw .invalidLength

theorem bind_liftM_ok {α β : Type} (a : α) (next : α → ExceptT HexError (Except Fault) β) :
    (liftM (Except.ok a : Except Fault α) >>= next) = next a := rfl

theorem hexDigitChecked_eq (byte : UInt8) : hexDigitChecked byte = answered (hexDigit byte) := by
  unfold hexDigitChecked hexDigit
  simp only [UInt8.le_iff_toNat_le]
  split
  · rename_i hRange
    rw [Byte.subExact_of_le hRange.1]
    rfl
  · split
    · rename_i hRange
      have hSum : Byte.addExact (byte - 0x41) 10 = .ok (byte - 0x41 + 10) :=
        Byte.addExact_of_lt (toNat_letter 0x41 hRange.1 hRange.2).1
      rw [Byte.subExact_of_le hRange.1]
      show (liftM (Byte.addExact (byte - 0x41) 10) : ExceptT HexError (Except Fault) UInt8) = _
      rw [hSum]
      rfl
    · split
      · rename_i hRange
        have hSum : Byte.addExact (byte - 0x61) 10 = .ok (byte - 0x61 + 10) :=
          Byte.addExact_of_lt (toNat_letter 0x61 hRange.1 hRange.2).1
        rw [Byte.subExact_of_le hRange.1]
        show (liftM (Byte.addExact (byte - 0x61) 10) : ExceptT HexError (Except Fault) UInt8) = _
        rw [hSum]
        rfl
      · rfl

theorem hexShortChecked_eq (digit : UInt8) :
    hexShortChecked digit = answered (hexShort digit) := by
  rw [hexShortChecked, hexDigitChecked_eq, hexShort]
  rcases hRead : hexDigit digit with error | d
  · rfl
  · have hLt := toNat_lt_of_hexDigit hRead
    have hProduct : Byte.mulExact d 17 = .ok (d * 17) :=
      Byte.mulExact_of_lt (show d.toNat * 17 < 256 by omega)
    show (liftM (Byte.mulExact d 17) : ExceptT HexError (Except Fault) UInt8) = _
    rw [hProduct]
    rfl

/-- Two digits have no bits in common when one is moved up. -/
theorem shiftLeft_or_eq {high low : UInt8} (hHigh : high.toNat < 16) (hLow : low.toNat < 16) :
    high <<< 4 ||| low = high * 16 + low := by
  have hShifted : (high <<< 4).toNat = high.toNat <<< 4 := by
    rw [UInt8.toNat_shiftLeft, Nat.mod_eq_of_lt]
    · rfl
    · rw [Nat.shiftLeft_eq]
      show high.toNat * 16 < 256
      omega
  have hProduct : (high * 16).toNat = high.toNat * 16 :=
    Byte.toNat_mul_of_lt (show high.toNat * 16 < 256 by omega)
  rw [← UInt8.toNat_inj, UInt8.toNat_or, Byte.toNat_add_of_lt (by omega), hShifted, hProduct,
    ← Nat.shiftLeft_add_eq_or_of_lt hLow, Nat.shiftLeft_eq]

theorem hexPairChecked_eq (high low : UInt8) :
    hexPairChecked high low = answered (hexPair high low) := by
  rw [hexPairChecked, hexDigitChecked_eq, hexDigitChecked_eq, hexPair]
  rcases hHigh : hexDigit high with error | x
  · rfl
  · rcases hLow : hexDigit low with error | y
    · rfl
    · have hSame := shiftLeft_or_eq (toNat_lt_of_hexDigit hHigh) (toNat_lt_of_hexDigit hLow)
      exact congrArg (fun d => answered (.ok d)) hSame

section Reading

variable {bytes : Array UInt8} {start : Nat}

theorem threeChecked_eq {r g b : UInt8}
    (hGet : ∀ i byte, [r, g, b][i]? = some byte → Bytes.get bytes (start + i) = .ok byte) :
    threeChecked bytes start = answered (ofHexDigits [r, g, b]) := by
  have h₀ : Bytes.get bytes start = .ok r := hGet 0 r rfl
  simp only [threeChecked, h₀, hGet 1 g rfl, hGet 2 b rfl, bind_liftM_ok, hexShortChecked_eq,
    pure_eq_answered, answered_bind, ofHexDigits]

theorem sixChecked_eq {r₁ r₀ g₁ g₀ b₁ b₀ : UInt8}
    (hGet : ∀ i byte, [r₁, r₀, g₁, g₀, b₁, b₀][i]? = some byte →
      Bytes.get bytes (start + i) = .ok byte) :
    sixChecked bytes start = answered (ofHexDigits [r₁, r₀, g₁, g₀, b₁, b₀]) := by
  have h₀ : Bytes.get bytes start = .ok r₁ := hGet 0 r₁ rfl
  simp only [sixChecked, h₀, hGet 1 r₀ rfl, hGet 2 g₁ rfl, hGet 3 g₀ rfl, hGet 4 b₁ rfl,
    hGet 5 b₀ rfl, bind_liftM_ok, hexPairChecked_eq, pure_eq_answered, answered_bind, ofHexDigits]

end Reading

/-- Reading a colour neither looks past the end nor overflows. -/
theorem ofHexChecked_eq (text : String) : ofHexChecked text = answered (ofHex text) := by
  have hCount : Bytes.countFrom text.toUTF8.data (digitsStart text.toUTF8.data) =
      .ok (digitBytes text).length := by
    rw [Bytes.countFrom_of_le (digitsStart_le _), digitBytes, List.length_drop, Array.length_toList]
  have hGet : ∀ i byte, (digitBytes text)[i]? = some byte →
      Bytes.get text.toUTF8.data (digitsStart text.toUTF8.data + i) = .ok byte := by
    intro i byte hByte
    rw [digitBytes, List.getElem?_drop, Array.getElem?_toList] at hByte
    exact Bytes.get_of_getElem? hByte
  rw [ofHex_eq]
  simp only [ofHexChecked, hCount, bind_liftM_ok]
  generalize digitBytes text = rest at hGet
  split
  · rename_i hThree
    obtain ⟨r, g, b, rfl⟩ := List.length_eq_three.mp hThree
    exact threeChecked_eq hGet
  · rename_i hSix
    match rest, hSix with
    | [r₁, r₀, g₁, g₀, b₁, b₀], _ => exact sixChecked_eq hGet
  · rename_i hThree hSix
    rcases ofHexDigits_cases rest with ⟨-, hRead⟩ | ⟨hLength, -⟩ | ⟨hLength, -⟩
    · rw [hRead]
      rfl
    · exact absurd hLength (not_or.mpr ⟨hThree, hSix⟩)
    · exact absurd hLength (not_or.mpr ⟨hThree, hSix⟩)

-- ---------------------------------------------------------------------------
-- Texts
-- ---------------------------------------------------------------------------

/-- A hexadecimal digit in a given letter case. -/
def hexLetter (upper : Bool) (value : Nat) : Char :=
  if upper then value.digitChar.toUpper else value.digitChar

/-- One of the six hexadecimal digits of the low 24 bits of a colour's number. -/
def digitAt (c : Color) (place : Nat) : Nat :=
  (c.toArgb32.toNat % 1 <<< 24) >>> (4 * (5 - place)) % 16

/-- The six digits, with or without a number sign, each in its own letter case. -/
def hexText (sign : Bool) (upper : Nat → Bool) (c : Color) : String :=
  .ofList ((if sign then ['#'] else []) ++
    (List.range 6).map fun place => hexLetter (upper place) (c.digitAt place))

theorem toNat_shiftLeft {place : UInt32} (channel : UInt8) (h : place.toNat ≤ 24) :
    (channel.toUInt32 <<< place).toNat = channel.toNat <<< place.toNat := by
  have hChannel := channel.toNat_lt
  have hTop : channel.toNat <<< place.toNat ≤ 255 <<< 24 := by
    rw [Nat.shiftLeft_eq, Nat.shiftLeft_eq]
    exact Nat.mul_le_mul (by omega) (Nat.pow_le_pow_right (by decide) h)
  have hPlace : place.toNat % 32 = place.toNat := Nat.mod_eq_of_lt (by omega)
  rw [UInt32.toNat_shiftLeft, UInt8.toNat_toUInt32, hPlace, Nat.mod_eq_of_lt (by omega)]

/-- The bytes of the four channels follow each other. -/
theorem toNat_toArgb32 (c : Color) :
    c.toArgb32.toNat =
      c.a.toNat * 16777216 + c.r.toNat * 65536 + c.g.toNat * 256 + c.b.toNat := by
  have hr := c.r.toNat_lt
  have hg := c.g.toNat_lt
  have hb := c.b.toNat_lt
  -- each channel lies below the one that is moved up
  have hGreen : c.g.toNat <<< 8 ||| c.b.toNat = c.g.toNat <<< 8 + c.b.toNat :=
    (Nat.shiftLeft_add_eq_or_of_lt hb _).symm
  have hRed : c.r.toNat <<< 16 ||| (c.g.toNat <<< 8 + c.b.toNat) =
      c.r.toNat <<< 16 + (c.g.toNat <<< 8 + c.b.toNat) :=
    (Nat.shiftLeft_add_eq_or_of_lt (by omega) _).symm
  have hOpacity : c.a.toNat <<< 24 ||| (c.r.toNat <<< 16 + (c.g.toNat <<< 8 + c.b.toNat)) =
      c.a.toNat <<< 24 + (c.r.toNat <<< 16 + (c.g.toNat <<< 8 + c.b.toNat)) :=
    (Nat.shiftLeft_add_eq_or_of_lt (by omega) _).symm
  rw [toArgb32, UInt32.toNat_or, UInt32.toNat_or, UInt32.toNat_or, toNat_shiftLeft c.a (by decide),
    toNat_shiftLeft c.r (by decide), toNat_shiftLeft c.g (by decide), UInt8.toNat_toUInt32,
    Nat.or_assoc, Nat.or_assoc]
  simp only [UInt32.reduceToNat, hGreen, hRed, hOpacity]
  omega

/-- A text of characters with one byte each. -/
theorem toList_toUTF8_ofList {chars : List Char} (h : ∀ char ∈ chars, char.utf8Size = 1) :
    (String.ofList chars).toUTF8.data.toList = chars.map fun char => char.val.toUInt8 := by
  rw [String.toUTF8, String.toByteArray_ofList, List.utf8Encode, List.toList_data_toByteArray,
    List.map_eq_flatMap]
  exact List.flatMap_congr fun char hChar => String.utf8EncodeChar_eq_singleton (h char hChar)

theorem hexLetter_spec (upper : Bool) (h : value < 16) :
    (hexLetter upper value).utf8Size = 1 ∧ Spells (hexLetter upper value).val.toUInt8 value := by
  revert value
  rcases upper with - | -
  · decide
  · decide

/-- What is left of a written colour spells its digits. -/
theorem spells_hexText (sign : Bool) (upper : Nat → Bool) (c : Color) :
    List.Forall₂ Spells (digitBytes (hexText sign upper c)) ((List.range 6).map c.digitAt) := by
  have hLetter (place : Nat) := hexLetter_spec (upper place)
    (show c.digitAt place < 16 from Nat.mod_lt _ (by decide))
  have hDigits : List.Forall₂ Spells
      ((List.range 6).map fun place => (hexLetter (upper place) (c.digitAt place)).val.toUInt8)
      ((List.range 6).map c.digitAt) := by
    rw [List.forall₂_map_left_iff, List.forall₂_map_right_iff, List.forall₂_same]
    exact fun place _ => (hLetter place).2
  have hSize : ∀ char ∈ (if sign then ['#'] else []) ++
      (List.range 6).map (fun place => hexLetter (upper place) (c.digitAt place)),
      char.utf8Size = 1 := by
    intro char hChar
    rcases List.mem_append.mp hChar with hSign | hDigit
    · rcases sign with - | -
      · exact absurd hSign List.not_mem_nil
      · obtain rfl := List.mem_singleton.mp hSign
        rfl
    · obtain ⟨place, -, rfl⟩ := List.mem_map.mp hDigit
      exact (hLetter place).1
  rw [digitBytes, digitsStart, ← Array.getElem?_toList, hexText, toList_toUTF8_ofList hSize,
    List.map_append, List.map_map]
  rcases sign with - | -
  · -- without a number sign the first byte is a digit, which is no number sign
    have hFirst : ¬some (hexLetter (upper 0) (c.digitAt 0)).val.toUInt8 = some 0x23 := by
      intro hSign
      have hSpells := (hLetter 0).2
      rw [Option.some.inj hSign] at hSpells
      simp only [Spells, UInt8.reduceToNat, Char.reduceToNat] at hSpells
      omega
    show List.Forall₂ Spells (List.drop
      (if some (hexLetter (upper 0) (c.digitAt 0)).val.toUInt8 = some 0x23 then 1 else 0) _) _
    rw [if_neg hFirst]
    exact hDigits
  · exact hDigits

/-- Two digits in a row are a byte. -/
theorem two_digits (number place : Nat) :
    number >>> (4 * (place + 1)) % 16 * 16 + number >>> (4 * place) % 16 =
      number >>> (4 * place) % 256 := by
  have hHigh : number >>> (4 * (place + 1)) = number >>> (4 * place) / 16 := by
    rw [Nat.mul_succ, Nat.shiftRight_add, Nat.shiftRight_eq_div_pow _ 4]
  omega

/-- **Colours that are written are read again**, all but the opacity. -/
theorem ofHex_hexText (sign : Bool) (upper : Nat → Bool) (c : Color) :
    ofHex (hexText sign upper c) = .ok { c with a := 255 } := by
  have hr := c.r.toNat_lt
  have hg := c.g.toNat_lt
  have hb := c.b.toNat_lt
  have hLow : c.toArgb32.toNat % 1 <<< 24 = c.r.toNat * 65536 + c.g.toNat * 256 + c.b.toNat := by
    rw [c.toNat_toArgb32]
    show _ % 16777216 = _
    omega
  obtain ⟨c', hRead, hRed, hGreen, hBlue, hOpaque⟩ :=
    exists_ofHexDigits_six (spells_hexText sign upper c)
  rw [digitAt, digitAt, hLow, two_digits _ 4] at hRed
  rw [digitAt, digitAt, hLow, two_digits _ 2] at hGreen
  rw [digitAt, digitAt, hLow, two_digits _ 0] at hBlue
  have hSame : c' = { c with a := 255 } := by
    obtain ⟨r, g, b, a⟩ := c'
    obtain rfl : r = c.r := UInt8.toNat_inj.mp (hRed.trans (by omega))
    obtain rfl : g = c.g := UInt8.toNat_inj.mp (hGreen.trans (by omega))
    obtain rfl : b = c.b := UInt8.toNat_inj.mp (hBlue.trans (by omega))
    obtain rfl : a = 255 := hOpaque
    rfl
  rw [ofHex_eq, hRead, hSame]

/-- **Which texts are colours.** What counts are the bytes of a text after one leading number sign,
if there is one. Reading never faults. The text is a colour if and only if the bytes are three or six
hexadecimal digits. A wrong number of bytes is one error; otherwise a wrong byte is the other. Six
digits are three opaque channels, and three digits stand for six. A colour that is written in any
letter case is read again, all but its opacity. -/
theorem ofHex_exact :
    (∀ text : String,
      ofHexChecked text = answered (ofHex text) ∧
      ((∃ c, ofHex text = .ok c) ↔
        ((digitBytes text).length = 3 ∨ (digitBytes text).length = 6) ∧
          ∀ byte ∈ digitBytes text, IsDigit byte) ∧
      (ofHex text = .error .invalidLength ↔
        ¬((digitBytes text).length = 3 ∨ (digitBytes text).length = 6)) ∧
      (ofHex text = .error .invalidHexChar ↔
        ((digitBytes text).length = 3 ∨ (digitBytes text).length = 6) ∧
          ∃ byte ∈ digitBytes text, ¬IsDigit byte) ∧
      (∀ d₁ d₂ d₃ d₄ d₅ d₆, List.Forall₂ Spells (digitBytes text) [d₁, d₂, d₃, d₄, d₅, d₆] →
        ∃ c, ofHex text = .ok c ∧ c.r.toNat = d₁ * 16 + d₂ ∧ c.g.toNat = d₃ * 16 + d₄ ∧
          c.b.toNat = d₅ * 16 + d₆ ∧ c.a = 255) ∧
      ∀ r g b, digitBytes text = [r, g, b] →
        ∀ long, digitBytes long = [r, r, g, g, b, b] → ofHex text = ofHex long) ∧
    ∀ (sign : Bool) (upper : Nat → Bool) (c : Color),
      ofHex (hexText sign upper c) = .ok { c with a := 255 } := by
  refine ⟨fun text => ?_, ofHex_hexText⟩
  obtain ⟨hColor, hLength, hChar⟩ := ofHexDigits_iff (digitBytes text)
  rw [ofHexChecked_eq, ofHex_eq]
  refine ⟨rfl, hColor, hLength, hChar, ?_, ?_⟩
  · intro d₁ d₂ d₃ d₄ d₅ d₆ hSpells
    exact exists_ofHexDigits_six hSpells
  · intro r g b hShort long hLong
    rw [ofHex_eq, hShort, hLong, ofHexDigits_three]

end TouchPanel.Color
