/-!
# Sets of code points

A property of characters is a table of ranges of code points, in ascending order.  Main statement:
a search that stops at the first range above a character finds every character of the table.
-/

namespace Ensemble.Text

/-- Whether no range starts below `low` or ends before it starts, and each one ends before the next
one starts. -/
def ascendsFrom (low : Nat) (ranges : List (Nat × Nat)) : Bool :=
  match ranges with
  | [] => true
  | (first, last) :: rest => low ≤ first && first ≤ last && ascendsFrom (last + 1) rest

/-- Whether a code point lies in one of the ranges, both ends included.  The search stops at the
first range that starts above it. -/
def inRanges (n : Nat) (ranges : List (Nat × Nat)) : Bool :=
  match ranges with
  | [] => false
  | (first, last) :: rest => first ≤ n && (n ≤ last || inRanges n rest)

/-- Ascending ranges hold nothing below the bound they start from. -/
theorem le_of_inRanges {n low : Nat} {ranges : List (Nat × Nat)}
    (ascends : ascendsFrom low ranges = true) (h : inRanges n ranges = true) : low ≤ n := by
  cases ranges with
  | nil => simp [inRanges] at h
  | cons r rest =>
    simp only [ascendsFrom, Bool.and_eq_true, decide_eq_true_eq] at ascends
    simp only [inRanges, Bool.and_eq_true, decide_eq_true_eq] at h
    omega

/-- Stopping early loses nothing. -/
theorem inRanges_iff {n low : Nat} {ranges : List (Nat × Nat)}
    (ascends : ascendsFrom low ranges = true) :
    inRanges n ranges = true ↔ ∃ r ∈ ranges, r.1 ≤ n ∧ n ≤ r.2 := by
  induction ranges generalizing low with
  | nil => simp [inRanges]
  | cons r rest ih =>
    simp only [ascendsFrom, Bool.and_eq_true, decide_eq_true_eq] at ascends
    have above : inRanges n rest = true → r.1 ≤ n := fun h => by
      have := le_of_inRanges ascends.2 h
      omega
    simp only [List.mem_cons, exists_eq_or_imp, ← ih ascends.2]
    simp only [inRanges, Bool.and_eq_true, Bool.or_eq_true, decide_eq_true_eq]
    constructor
    · rintro ⟨first, last | h⟩
      · exact .inl ⟨first, last⟩
      · exact .inr h
    · rintro (⟨first, last⟩ | h)
      · exact ⟨first, .inl last⟩
      · exact ⟨above h, .inr h⟩

/-- A set of code points, as ascending ranges with both ends. -/
structure CodeSet where
  /-- First and last code point of each range. -/
  ranges : List (Nat × Nat)
  /-- The ranges lie in ascending order and apart. -/
  ascends : ascendsFrom 0 ranges = true

/-- Whether a character is in the set. -/
def CodeSet.contains (s : CodeSet) (c : Char) : Bool := inRanges c.toNat s.ranges

/-- A character is in the set exactly if one of the ranges holds its code point. -/
theorem CodeSet.contains_iff (s : CodeSet) (c : Char) :
    s.contains c = true ↔ ∃ r ∈ s.ranges, r.1 ≤ c.toNat ∧ c.toNat ≤ r.2 :=
  inRanges_iff s.ascends

end Ensemble.Text
