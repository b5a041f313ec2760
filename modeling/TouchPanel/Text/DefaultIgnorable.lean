import TouchPanel.Text.CharClass

/-!
# Characters that a display may pass over

Joiners, variation selectors, fillers and the like steer how the text around them is laid out and
have no glyph. Most of them are unprintable or join the character before, but the fillers that
stand for a missing letter are letters themselves. Main statement: no character below the soft
hyphen is one of them.
-/

namespace TouchPanel

namespace Text

/-- The property Default_Ignorable_Code_Point, in Unicode 17.0. -/
def defaultIgnorable : CharClass where
  ranges :=
    [(0xad, 0xad), (0x34f, 0x34f), (0x61c, 0x61c), (0x115f, 0x1160), (0x17b4, 0x17b5),
     (0x180b, 0x180f), (0x200b, 0x200f), (0x202a, 0x202e), (0x2060, 0x206f), (0x3164, 0x3164),
     (0xfe00, 0xfe0f), (0xfeff, 0xfeff), (0xffa0, 0xffa0), (0xfff0, 0xfff8), (0x1bca0, 0x1bca3),
     (0x1d173, 0x1d17a), (0xe0000, 0xe0fff)]
  apart := by decide +kernel

theorem not_mem_defaultIgnorable_of_lt {c : Char} (h : c.toNat < 0xad) :
    c ∉ defaultIgnorable := by
  rw [← CharClass.contains_iff, CharClass.contains,
    show defaultIgnorable.ranges = (0xad, 0xad) :: defaultIgnorable.ranges.drop 1 from rfl]
  simp only [covers]
  grind

end Text

end TouchPanel
