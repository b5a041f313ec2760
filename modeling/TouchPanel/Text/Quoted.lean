import TouchPanel.Text.DefaultIgnorable
import TouchPanel.Text.GraphemeExtend
import TouchPanel.Text.Unprintable

/-!
# Quoted text

The way a log line shows a caption: between quotation marks, on one line, so that the end of
the caption and every character in it can be seen. Main statement: `visible_of_mem_escapeChar`, no
caption puts a character into a log line that leaves no mark of its own.
-/

namespace TouchPanel

namespace Text

/-- A character that leaves a mark of its own on a line. -/
def Visible (c : Char) : Prop :=
  c ∉ unprintable ∧ c ∉ defaultIgnorable ∧ ¬ Joining c

instance (c : Char) : Decidable (Visible c) :=
  inferInstanceAs (Decidable (_ ∧ _ ∧ _))

/-- The characters from the space to the tilde are visible. -/
theorem visible_of_ascii {c : Char} (hLow : 0x20 ≤ c.toNat) (hHigh : c.toNat < 0x7f) :
    Visible c :=
  ⟨not_mem_unprintable_of_ascii hLow hHigh, not_mem_defaultIgnorable_of_lt (by omega),
    not_joining_of_lt (by omega)⟩

/-- A character named by its code point: lower-case hexadecimal digits between braces. -/
def codePoint (c : Char) : List Char :=
  ['\\', 'u', '\x7b'] ++ Nat.toDigits 16 c.toNat ++ ['\x7d']

/-- A character of a quoted text. A quotation mark, a backslash, the line breaks, the tabulator
and the null have an escape sequence of their own; every other character stands for itself if it
is visible, and is named by its code point if not. -/
def escapeChar (c : Char) : List Char :=
  if c = '"' ∨ c = '\\' then ['\\', c]
  else if c = '\n' then ['\\', 'n']
  else if c = '\r' then ['\\', 'r']
  else if c = '\t' then ['\\', 't']
  else if c = '\x00' then ['\\', '0']
  else if Visible c then [c]
  else codePoint c

/-- A text as a log line shows it. -/
def quoted (text : String) : String :=
  String.ofList ('"' :: (text.toList.flatMap escapeChar ++ ['"']))

private theorem visible_of_mem_toDigitsCore {fuel n : Nat} {digits : List Char}
    (h : ∀ d ∈ digits, Visible d) : ∀ d ∈ Nat.toDigitsCore 16 fuel n digits, Visible d := by
  have hDigit : ∀ k < 16, 0x20 ≤ (Nat.digitChar k).toNat ∧ (Nat.digitChar k).toNat < 0x7f := by
    decide
  induction fuel generalizing n digits with
  | zero => exact h
  | succ fuel ih =>
    have hHead := hDigit (n % 16) (by omega)
    have hCons : ∀ d ∈ Nat.digitChar (n % 16) :: digits, Visible d := by
      simpa using ⟨visible_of_ascii hHead.1 hHead.2, h⟩
    rw [Nat.toDigitsCore]
    split
    · exact hCons
    · exact ih hCons

/-- The name of a code point is visible. -/
theorem visible_of_mem_codePoint {c d : Char} (h : d ∈ codePoint c) : Visible d := by
  simp only [codePoint, List.mem_append, List.mem_cons, List.not_mem_nil, or_false] at h
  rcases h with ((rfl | rfl | rfl) | h) | rfl
  case inl.inr => exact visible_of_mem_toDigitsCore (by simp) d h
  all_goals exact visible_of_ascii (by decide) (by decide)

/-- Whatever the character, its form in a quoted text is visible. -/
theorem visible_of_mem_escapeChar {c d : Char} (h : d ∈ escapeChar c) : Visible d := by
  unfold escapeChar at h
  split at h
  case isTrue hc =>
    have : d = '\\' ∨ d = '"' := by grind
    rcases this with rfl | rfl <;> exact visible_of_ascii (by decide) (by decide)
  iterate 4
    split at h
    · simp only [List.mem_cons, List.not_mem_nil, or_false] at h
      rcases h with rfl | rfl <;> exact visible_of_ascii (by decide) (by decide)
  split at h
  case isTrue hc => exact List.mem_singleton.mp h ▸ hc
  case isFalse => exact visible_of_mem_codePoint h

end Text

end TouchPanel
