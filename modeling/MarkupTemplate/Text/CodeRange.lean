/-!
Classes of characters given as ranges of code points. A table lists inclusive
ranges in ascending order; a character belongs to the class when one range
holds its code point.
-/

namespace MarkupTemplate

abbrev CodeRange := Nat × Nat

def CodeRange.holds (range : CodeRange) (c : Char) : Bool :=
  range.1 ≤ c.toNat && c.toNat ≤ range.2

def inRanges (ranges : List CodeRange) (c : Char) : Bool :=
  ranges.any (·.holds c)

theorem inRanges_iff (ranges : List CodeRange) (c : Char) :
    inRanges ranges c = true ↔ ∃ range ∈ ranges, range.1 ≤ c.toNat ∧ c.toNat ≤ range.2 := by
  simp [inRanges, CodeRange.holds]

/-- No code point lies in a range of both tables. -/
def rangesApart (left right : List CodeRange) : Bool :=
  left.all fun range => right.all fun other => range.2 < other.1 || other.2 < range.1

theorem apart_outside (left right : List CodeRange) (apart : rangesApart left right = true)
    (c : Char) (inside : inRanges left c = true) : inRanges right c = false := by
  cases member : inRanges right c with
  | false => rfl
  | true =>
      obtain ⟨range, held, low, high⟩ := (inRanges_iff left c).mp inside
      obtain ⟨other, heldOther, lowOther, highOther⟩ := (inRanges_iff right c).mp member
      have between := List.all_eq_true.mp (List.all_eq_true.mp apart range held) other heldOther
      simp only [Bool.or_eq_true, decide_eq_true_eq] at between
      omega

end MarkupTemplate
