/-!
# Classes of characters

A class of characters is a list of closed ranges of code points, ascending and apart, so that one
walk that stops early decides membership. Main statement: `contains_iff`, the walk finds exactly
the characters that lie in one of the ranges.
-/

namespace TouchPanel

namespace Text

/-- Ranges `(first, last)` that start at `low` or above, none of them empty, with at least one
code point between any two. -/
def Apart : Nat → List (Nat × Nat) → Prop
  | _, [] => True
  | low, (first, last) :: rest => low ≤ first ∧ first ≤ last ∧ Apart (last + 2) rest

instance decidableApart : (low : Nat) → (ranges : List (Nat × Nat)) → Decidable (Apart low ranges)
  | _, [] => .isTrue trivial
  | _, (_, last) :: rest =>
      have := decidableApart (last + 2) rest
      inferInstanceAs (Decidable (_ ∧ _ ∧ _))

/-- Ranges that lie apart all start at the lower bound or above. -/
theorem Apart.le_first {low : Nat} {ranges : List (Nat × Nat)} (h : Apart low ranges) :
    ∀ r ∈ ranges, low ≤ r.1 := by
  induction ranges generalizing low with
  | nil => simp
  | cons r rest ih =>
    intro s hs
    obtain ⟨hLow, hLe, hRest⟩ := h
    rcases List.mem_cons.mp hs with rfl | hs
    · exact hLow
    · have := ih hRest s hs
      omega

/-- Whether a code point lies in one of the ranges, which lie apart: the first range that does
not end below the code point decides. -/
def covers : List (Nat × Nat) → Nat → Bool
  | [], _ => false
  | (first, last) :: rest, n => if last < n then covers rest n else first ≤ n

theorem covers_iff {low : Nat} {ranges : List (Nat × Nat)} (h : Apart low ranges) (n : Nat) :
    covers ranges n = true ↔ ∃ r ∈ ranges, r.1 ≤ n ∧ n ≤ r.2 := by
  induction ranges generalizing low with
  | nil => simp [covers]
  | cons r rest ih =>
    obtain ⟨-, -, hRest⟩ := h
    simp only [covers, List.mem_cons, exists_eq_or_imp]
    split
    · rw [ih hRest]
      exact ⟨Or.inr, fun hor => hor.resolve_left fun hr => by omega⟩
    · rw [decide_eq_true_eq]
      refine ⟨fun hFirst => Or.inl ⟨hFirst, by omega⟩, ?_⟩
      rintro (hr | ⟨s, hs, hFirst, -⟩)
      · exact hr.1
      · have := hRest.le_first s hs
        omega

/-- A class of characters, given by the code points in it. -/
structure CharClass where
  /-- Closed ranges: both ends of `(first, last)` belong to the class. -/
  ranges : List (Nat × Nat)
  apart : Apart 0 ranges

namespace CharClass

instance : Membership Char CharClass where
  mem cls c := ∃ r ∈ cls.ranges, r.1 ≤ c.toNat ∧ c.toNat ≤ r.2

/-- Whether a character belongs to a class. -/
def contains (cls : CharClass) (c : Char) : Bool :=
  covers cls.ranges c.toNat

theorem contains_iff {cls : CharClass} {c : Char} : cls.contains c = true ↔ c ∈ cls :=
  covers_iff cls.apart c.toNat

instance (cls : CharClass) (c : Char) : Decidable (c ∈ cls) :=
  decidable_of_iff _ contains_iff

end CharClass

end Text

end TouchPanel
