import TouchPanel.Proofs.Bytes
import TouchPanel.Proofs.Font

/-!
# Which bytes are fonts

`Font.load` takes any bytes, of which the header says how many there have to be. What the header
says is read here as plain numbers (`Header`), and a font is accepted exactly when the header and
all bitmaps lie in the bytes, in exact arithmetic (`Complete`).

`Font.load` looks at bytes with functions that cannot fail. `loadChecked` is the same with a fault
for every byte and every slice outside the bytes, and it never faults (`loadChecked_eq`).
-/

namespace TouchPanel

-- ---------------------------------------------------------------------------
-- Headers
-- ---------------------------------------------------------------------------

namespace FontVersion

/-- The bytes that a font of the version begins with. -/
def magic : FontVersion → Array UInt8
  | v1 => Font.magic1
  | v2 => Font.magic2

/-- The least number of bytes before the bitmaps. -/
def headerSize : FontVersion → Nat
  | v1 => 4
  | v2 => 32

end FontVersion

namespace Font

/-- What the header of a font says. -/
structure Header where
  /-- The place of the first bitmap. -/
  offset : Nat
  glyphCount : Nat
  bytesPerGlyph : Nat
  height : Nat
  width : Nat

namespace Header

/-- The number that four bytes write, the lowest byte first. -/
def number (data : Array UInt8) (start : Nat) : Nat :=
  (data.getD start 0).toNat + 256 * (data.getD (start + 1) 0).toNat +
    65536 * (data.getD (start + 2) 0).toNat + 16777216 * (data.getD (start + 3) 0).toNat

/-- The header at the beginning of some bytes. -/
def read (data : Array UInt8) : FontVersion → Header
  | .v1 =>
      { offset := 4
        glyphCount := if (data.getD 2 0).toNat % 2 = 0 then 256 else 512
        bytesPerGlyph := (data.getD 3 0).toNat
        height := (data.getD 3 0).toNat
        width := 8 }
  | .v2 =>
      { offset := number data 8
        glyphCount := number data 16
        bytesPerGlyph := number data 20
        height := number data 24
        width := number data 28 }

/-- The place where the bitmap of a character begins. -/
def bitmapStart (header : Header) (index : Nat) : Nat :=
  header.offset + index * header.bytesPerGlyph

end Header

/-- The header and all bitmaps lie in the bytes. -/
def Complete (data : Array UInt8) (version : FontVersion) : Prop :=
  version.headerSize ≤ data.size ∧
    (Header.read data version).offset + (Header.read data version).glyphCount *
      (Header.read data version).bytesPerGlyph ≤ data.size

/-- The font is what the header says. -/
structure Describes (header : Header) (font : Font) : Prop where
  width : font.width.toNat = header.width
  height : font.height.toNat = header.height
  glyphCount : font.glyphCount.toNat = header.glyphCount
  bytesPerGlyph : font.bytesPerGlyph.toNat = header.bytesPerGlyph

variable {data magic : Array UInt8}

-- ---------------------------------------------------------------------------
-- Faults
-- ---------------------------------------------------------------------------

/-- `startsWith`, with a fault for a slice outside the bytes. -/
def startsWithChecked (magic data : Array UInt8) : Except Fault Bool :=
  if data.size < magic.size then
    return false
  else
    return (← Bytes.slice data 0 magic.size) == magic

/-- `headerField`, with a fault for a byte outside the bytes. -/
def headerFieldChecked (data : Array UInt8) (index : Nat) : Except Fault Word := do
  let byte₀ ← Bytes.get data (4 + 4 * index)
  let byte₁ ← Bytes.get data (4 + 4 * index + 1)
  let byte₂ ← Bytes.get data (4 + 4 * index + 2)
  let byte₃ ← Bytes.get data (4 + 4 * index + 3)
  return UInt64.ofNat (littleEndian [byte₀, byte₁, byte₂, byte₃])

/-- `withGlyphs`, with a fault for a slice outside the bytes. -/
def withGlyphsChecked (data : Array UInt8)
    (offset width height glyphCount bytesPerGlyph : Word) (version : FontVersion) :
    Except Fault (Except FontError Font) :=
  match (glyphCount.mul? bytesPerGlyph).bind (Word.add? · offset) with
  | none => return .error .bufferTooSmall
  | some needed =>
      if data.size < needed.toNat then
        return .error .bufferTooSmall
      else
        return .ok { version, width, height, glyphCount, bytesPerGlyph,
                     glyphs := ← Bytes.slice data offset.toNat needed.toNat }

/-- `load1`, with a fault for what is outside the bytes. -/
def load1Checked (data : Array UInt8) : Except Fault (Except FontError Font) :=
  if data.size < headerSize1 then
    return .error .bufferTooSmall
  else do
    let mode ← Bytes.get data 2
    let charSize := (← Bytes.get data 3).toUInt64
    let glyphCount := if mode &&& 1 = 0 then 256 else 512
    withGlyphsChecked data (UInt64.ofNat headerSize1) 8 charSize glyphCount charSize .v1

/-- `load2`, with a fault for what is outside the bytes. -/
def load2Checked (data : Array UInt8) : Except Fault (Except FontError Font) :=
  if data.size < headerSize2 then
    return .error .bufferTooSmall
  else do
    let headerSize ← headerFieldChecked data 1
    let glyphCount ← headerFieldChecked data 3
    let bytesPerGlyph ← headerFieldChecked data 4
    let height ← headerFieldChecked data 5
    let width ← headerFieldChecked data 6
    withGlyphsChecked data headerSize width height glyphCount bytesPerGlyph .v2

/-- `load`, with a fault for what is outside the bytes. -/
def loadChecked (data : Array UInt8) : Except Fault (Except FontError Font) := do
  if ← startsWithChecked magic1 data then load1Checked data
  else if ← startsWithChecked magic2 data then load2Checked data
  else if data.size < 4 then return .error .notAPsfFont
  else return .error .invalidMagic

theorem startsWithChecked_eq : startsWithChecked magic data = .ok (startsWith magic data) := by
  unfold startsWithChecked
  split
  · rename_i hShort
    -- what is shorter than the magic number is not equal to it
    have hDiffers : data.extract 0 magic.size ≠ magic := by
      intro hSame
      have hSize := congrArg Array.size hSame
      rw [Array.size_extract] at hSize
      omega
    rw [startsWith, beq_eq_false_iff_ne.mpr hDiffers]
    rfl
  · rename_i hLong
    rw [Bytes.slice_of_le (Nat.zero_le _) (Nat.le_of_not_lt hLong)]
    rfl

/-- Four bytes that are cut out of the data. -/
theorem toList_extract_four {start : Nat} (h : start + 4 ≤ data.size) :
    (data.extract start (start + 4)).toList =
      [data.getD start 0, data.getD (start + 1) 0, data.getD (start + 2) 0,
        data.getD (start + 3) 0] := by
  have hByte (i : Nat) (hi : i < 4) :
      (data.extract start (start + 4)).toList[i]? = some (data.getD (start + i) 0) := by
    rw [Array.getElem?_toList, Array.getElem?_extract, if_pos (by omega),
      Array.getD_eq_getD_getElem?, Array.getElem?_eq_getElem (by omega), Option.getD_some]
  refine List.ext_getElem? fun i => ?_
  rcases i with - | - | - | - | i
  · exact hByte 0 (by decide)
  · exact hByte 1 (by decide)
  · exact hByte 2 (by decide)
  · exact hByte 3 (by decide)
  · refine List.getElem?_eq_none ?_
    rw [Array.length_toList, Array.size_extract]
    omega

/-- A field of a header as it is read. -/
theorem headerField_eq {index : Nat} (h : 8 + 4 * index ≤ data.size) :
    headerField data index = UInt64.ofNat (littleEndian
      [data.getD (4 + 4 * index) 0, data.getD (4 + 4 * index + 1) 0,
        data.getD (4 + 4 * index + 2) 0, data.getD (4 + 4 * index + 3) 0]) := by
  rw [headerField, show 8 + 4 * index = 4 + 4 * index + 4 by omega, toList_extract_four (by omega)]

theorem headerFieldChecked_eq {index : Nat} (h : 8 + 4 * index ≤ data.size) :
    headerFieldChecked data index = .ok (headerField data index) := by
  rw [headerField_eq h, headerFieldChecked, Bytes.get_of_lt (by omega),
    Bytes.get_of_lt (by omega), Bytes.get_of_lt (by omega), Bytes.get_of_lt (by omega)]
  rfl

theorem withGlyphsChecked_eq {offset width height count bytes : Word} {version : FontVersion} :
    withGlyphsChecked data offset width height count bytes version =
      .ok (withGlyphs data offset width height count bytes version) := by
  unfold withGlyphsChecked withGlyphs
  rcases hNeeded : (count.mul? bytes).bind (Word.add? · offset) with - | needed
  · rfl
  · obtain ⟨total, -, hSum⟩ := Option.bind_eq_some_iff.mp hNeeded
    rw [Word.add?_eq_some_iff] at hSum
    by_cases hEnough : data.size < needed.toNat
    · simp only [if_pos hEnough]
      rfl
    · simp only [if_neg hEnough, Bytes.slice_of_le (show offset.toNat ≤ needed.toNat by omega)
        (Nat.le_of_not_lt hEnough)]
      rfl

theorem load1Checked_eq : load1Checked data = .ok (load1 data) := by
  unfold load1Checked load1
  split
  · rfl
  · rename_i hHeader
    rw [headerSize1] at hHeader
    rw [Bytes.get_of_lt (by omega), Bytes.get_of_lt (by omega)]
    exact withGlyphsChecked_eq

theorem load2Checked_eq : load2Checked data = .ok (load2 data) := by
  unfold load2Checked load2
  split
  · rfl
  · rename_i hHeader
    rw [headerSize2] at hHeader
    rw [headerFieldChecked_eq (by omega), headerFieldChecked_eq (by omega),
      headerFieldChecked_eq (by omega), headerFieldChecked_eq (by omega),
      headerFieldChecked_eq (by omega)]
    exact withGlyphsChecked_eq

/-- Reading a font never looks outside the bytes. -/
theorem loadChecked_eq (data : Array UInt8) : loadChecked data = .ok (load data) := by
  simp only [loadChecked, startsWithChecked_eq, bind, Except.bind, load1Checked_eq, load2Checked_eq,
    load]
  split
  · rfl
  · split
    · rfl
    · split
      · rfl
      · rfl

-- ---------------------------------------------------------------------------
-- What is accepted
-- ---------------------------------------------------------------------------

theorem startsWith_iff : startsWith magic data = true ↔ magic.toList <+: data.toList := by
  rw [startsWith, beq_iff_eq, ← Array.toList_inj, Array.toList_extract, List.extract_eq_take_drop,
    List.drop_zero, Nat.sub_zero, List.prefix_iff_eq_take, Array.length_toList]
  exact eq_comm

/-- The magic numbers differ in the first byte. -/
theorem not_startsWith_magic1 (h : magic2.toList <+: data.toList) :
    ¬startsWith magic1 data = true := by
  intro hOther
  obtain ⟨rest₁, hFirst⟩ := startsWith_iff.mp hOther
  obtain ⟨rest₂, hSecond⟩ := h
  have hSame : (0x36 : UInt8) = 0x72 := (List.cons.inj (hFirst.trans hSecond.symm)).1
  exact absurd hSame (by decide)

theorem load_of_magic1 (h : magic1.toList <+: data.toList) : load data = load1 data := by
  rw [load, if_pos (startsWith_iff.mpr h)]

theorem load_of_magic2 (h : magic2.toList <+: data.toList) : load data = load2 data := by
  rw [load, if_neg (not_startsWith_magic1 h), if_pos (startsWith_iff.mpr h)]

theorem toNat_headerField {index : Nat} (h : 8 + 4 * index ≤ data.size) :
    (headerField data index).toNat = Header.number data (4 + 4 * index) := by
  have h₀ := (data.getD (4 + 4 * index) 0).toNat_lt
  have h₁ := (data.getD (4 + 4 * index + 1) 0).toNat_lt
  have h₂ := (data.getD (4 + 4 * index + 2) 0).toNat_lt
  have h₃ := (data.getD (4 + 4 * index + 3) 0).toNat_lt
  rw [headerField_eq h]
  simp only [littleEndian, Header.number]
  rw [UInt64.toNat_ofNat_of_lt' (show _ < 1 <<< 64 by omega)]
  omega

/-- The numbers in a header are too small for the end of the bitmaps to overflow. -/
theorem exists_needed {offset count bytes : Word} (hOffset : offset.toNat < 1 <<< 32)
    (hCount : count.toNat < 1 <<< 32) (hBytes : bytes.toNat < 1 <<< 32) :
    ∃ needed : Word, (count.mul? bytes).bind (Word.add? · offset) = some needed ∧
      needed.toNat = offset.toNat + count.toNat * bytes.toNat := by
  have hMost : count.toNat * bytes.toNat ≤ 0xFFFFFFFF * 0xFFFFFFFF :=
    Nat.mul_le_mul (by omega) (by omega)
  have hProduct : (count * bytes).toNat = count.toNat * bytes.toNat :=
    Word.toNat_mul_of_lt (by omega)
  have hSum : (count * bytes + offset).toNat = (count * bytes).toNat + offset.toNat :=
    Word.toNat_add_of_lt (by omega)
  refine ⟨count * bytes + offset, ?_, by omega⟩
  rw [Word.mul?_eq_some_iff.mpr hProduct, Option.bind_some]
  exact Word.add?_eq_some_iff.mpr hSum

/-- What the header says, in words. -/
structure Header.Words (header : Header) (offset width height count bytes : Word) : Prop where
  offset_eq : offset.toNat = header.offset
  width_eq : width.toNat = header.width
  height_eq : height.toNat = header.height
  count_eq : count.toNat = header.glyphCount
  bytes_eq : bytes.toNat = header.bytesPerGlyph
  offset_lt : offset.toNat < 1 <<< 32
  count_lt : count.toNat < 1 <<< 32
  bytes_lt : bytes.toNat < 1 <<< 32

/-- Where there is a magic number, but not all of the header. -/
theorem load_of_short {version : FontVersion} (hMagic : version.magic.toList <+: data.toList)
    (h : data.size < version.headerSize) : load data = .error .bufferTooSmall := by
  rcases version with - | -
  · rw [load_of_magic1 hMagic, load1]
    exact if_pos h
  · rw [load_of_magic2 hMagic, load2]
    exact if_pos h

/-- Where the header is there, all depends on the bitmaps. -/
theorem exists_load_eq {version : FontVersion} (hMagic : version.magic.toList <+: data.toList)
    (h : version.headerSize ≤ data.size) :
    ∃ offset width height count bytes,
      load data = withGlyphs data offset width height count bytes version ∧
        (Header.read data version).Words offset width height count bytes := by
  rcases version with - | -
  · have hSize : ¬data.size < headerSize1 := Nat.not_lt.mpr h
    rw [load_of_magic1 hMagic, load1, if_neg hSize]
    have hChar : (data.getD 3 0).toUInt64.toNat = (data.getD 3 0).toNat := UInt8.toNat_toUInt64 _
    have hSmall := (data.getD 3 0).toNat_lt
    have hMode : data.getD 2 0 &&& 1 = 0 ↔ (data.getD 2 0).toNat % 2 = 0 := by
      rw [← UInt8.toNat_inj, UInt8.toNat_and, UInt8.toNat_one, Nat.and_one_is_mod,
        UInt8.toNat_zero]
    refine ⟨_, _, _, _, _, rfl, rfl, rfl, hChar, ?_, hChar, by decide, ?_, by omega⟩
    · simp only [Header.read, hMode]
      split
      · rfl
      · rfl
    · split
      · decide
      · decide
  · have hSize : 32 ≤ data.size := h
    rw [load_of_magic2 hMagic, load2, if_neg (show ¬data.size < headerSize2 from Nat.not_lt.mpr h)]
    exact ⟨_, _, _, _, _, rfl, toNat_headerField (by omega), toNat_headerField (by omega),
      toNat_headerField (by omega), toNat_headerField (by omega), toNat_headerField (by omega),
      headerField_lt data 1, headerField_lt data 3, headerField_lt data 4⟩

section Header

variable {header : Header} {offset width height count bytes : Word} {version : FontVersion}

theorem withGlyphs_of_missing (hWords : header.Words offset width height count bytes)
    (h : data.size < header.offset + header.glyphCount * header.bytesPerGlyph) :
    withGlyphs data offset width height count bytes version = .error .bufferTooSmall := by
  obtain ⟨needed, hNeeded, hEnd⟩ := exists_needed hWords.offset_lt hWords.count_lt hWords.bytes_lt
  rw [hWords.offset_eq, hWords.count_eq, hWords.bytes_eq] at hEnd
  simp only [withGlyphs, hNeeded]
  exact if_pos (by omega)

/-- The font that is cut out of the bytes. -/
theorem withGlyphs_of_le (hWords : header.Words offset width height count bytes)
    (h : header.offset + header.glyphCount * header.bytesPerGlyph ≤ data.size) :
    withGlyphs data offset width height count bytes version =
      .ok { version, width, height, glyphCount := count, bytesPerGlyph := bytes,
            glyphs := data.extract header.offset
              (header.offset + header.glyphCount * header.bytesPerGlyph) } := by
  obtain ⟨needed, hNeeded, hEnd⟩ := exists_needed hWords.offset_lt hWords.count_lt hWords.bytes_lt
  rw [hWords.offset_eq, hWords.count_eq, hWords.bytes_eq] at hEnd
  simp only [withGlyphs, hNeeded]
  rw [if_neg (by omega), hEnd, hWords.offset_eq]

end Header

/-- The bitmap of a character ends before the bitmaps do. -/
theorem Header.bitmapStart_add_le {header : Header} {index : Nat} (h : index < header.glyphCount) :
    header.bitmapStart index + header.bytesPerGlyph ≤
      header.offset + header.glyphCount * header.bytesPerGlyph := by
  have hStop : (index + 1) * header.bytesPerGlyph ≤ header.glyphCount * header.bytesPerGlyph :=
    Nat.mul_le_mul_right _ h
  rw [Nat.succ_mul] at hStop
  rw [bitmapStart]
  omega

/-- A bitmap in the table is its part of the bytes. -/
theorem Header.extract_bitmap {header : Header} {index : Nat} (h : index < header.glyphCount) :
    (data.extract header.offset (header.offset + header.glyphCount * header.bytesPerGlyph)).extract
        (index * header.bytesPerGlyph) ((index + 1) * header.bytesPerGlyph) =
      data.extract (header.bitmapStart index)
        (header.bitmapStart index + header.bytesPerGlyph) := by
  have hStop := header.bitmapStart_add_le h
  rw [bitmapStart] at hStop
  rw [Array.extract_extract, Nat.succ_mul, ← Nat.add_assoc, Nat.min_eq_left hStop, bitmapStart]

/-- **Which bytes are fonts.** Reading never looks outside the bytes. Without a magic number they
are no font. With one, they are a font of that version if and only if the header and the bitmaps lie
in them; the font is then what the header says, and the bitmap of a character is found without a
fault: it is its part of the bytes, or there is none past the last character. -/
theorem load_exact (data : Array UInt8) :
    loadChecked data = .ok (load data) ∧
    ((∀ version : FontVersion, ¬version.magic.toList <+: data.toList) →
      load data = .error (if data.size < 4 then .notAPsfFont else .invalidMagic)) ∧
    ∀ version : FontVersion, version.magic.toList <+: data.toList →
      (¬Complete data version → load data = .error .bufferTooSmall) ∧
      (Complete data version →
        ∃ font, load data = .ok font ∧ font.version = version ∧
          Describes (Header.read data version) font ∧
          ∀ c : Char,
            if c.toNat < (Header.read data version).glyphCount then
              ∃ bitmap, font.glyph? c = .ok (some bitmap) ∧
                bitmap.size = (Header.read data version).bytesPerGlyph ∧
                bitmap = data.extract ((Header.read data version).bitmapStart c.toNat)
                  ((Header.read data version).bitmapStart c.toNat +
                    (Header.read data version).bytesPerGlyph)
            else font.glyph? c = .ok none) := by
  refine ⟨loadChecked_eq data, fun hNone => ?_, fun version hMagic => ⟨fun hMissing => ?_,
    fun hComplete => ?_⟩⟩
  · have hOther (version : FontVersion) : ¬startsWith version.magic data = true :=
      fun h => hNone version (startsWith_iff.mp h)
    rw [load, if_neg (show ¬startsWith magic1 data = true from hOther .v1),
      if_neg (show ¬startsWith magic2 data = true from hOther .v2)]
    split
    · rfl
    · rfl
  · by_cases hHeader : version.headerSize ≤ data.size
    · obtain ⟨offset, width, height, count, bytes, hLoad, hWords⟩ := exists_load_eq hMagic hHeader
      rw [hLoad]
      exact withGlyphs_of_missing hWords (Nat.lt_of_not_le fun h => hMissing ⟨hHeader, h⟩)
    · exact load_of_short hMagic (Nat.lt_of_not_le hHeader)
  · obtain ⟨hHeader, hBitmaps⟩ := hComplete
    obtain ⟨offset, width, height, count, bytes, hLoad, hWords⟩ := exists_load_eq hMagic hHeader
    rw [withGlyphs_of_le hWords hBitmaps] at hLoad
    refine ⟨_, hLoad, rfl, ⟨hWords.width_eq, hWords.height_eq, hWords.count_eq, hWords.bytes_eq⟩, fun c => ?_⟩
    have hGlyph := (accepted_of_load hLoad).glyph?_eq c
    simp only [hWords.count_eq, hWords.bytes_eq] at hGlyph
    split
    · rename_i hKnown
      rw [if_pos hKnown] at hGlyph
      have hStop := Header.bitmapStart_add_le hKnown
      refine ⟨_, hGlyph, ?_, Header.extract_bitmap hKnown⟩
      rw [Header.extract_bitmap hKnown, Array.size_extract]
      omega
    · rename_i hUnknown
      rw [if_neg hUnknown] at hGlyph
      exact hGlyph

end Font

end TouchPanel
