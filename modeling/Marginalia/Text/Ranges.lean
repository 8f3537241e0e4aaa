/-!
# Ranges of code points

A class of characters is given by ranges of code points.  `inRanges_iff` says what a table of ranges
in increasing order stands for.
-/

namespace Marginalia.Text

/-- Ranges of code points, the ends included. -/
abbrev Ranges := List (Nat × Nat)

/-- Whether a code point lies in one of the ranges, which are in increasing order. -/
def inRanges (n : Nat) : Ranges → Bool
  | [] => false
  | (lo, hi) :: rest => if n < lo then false else n ≤ hi || inRanges n rest

theorem inRanges_iff {n : Nat} {ranges : Ranges}
    (h : ranges.Pairwise fun a b => a.1 ≤ b.1) :
    inRanges n ranges = true ↔ ∃ r ∈ ranges, r.1 ≤ n ∧ n ≤ r.2 := by
  induction ranges with
  | nil => simp [inRanges]
  | cons r rest ih =>
    obtain ⟨lo, hi⟩ := r
    obtain ⟨hlo, hrest⟩ := List.pairwise_cons.mp h
    by_cases hn : n < lo
    · simp only [inRanges, hn, if_true, Bool.false_eq_true, false_iff]
      rintro ⟨r, hr, h1, _⟩
      cases List.mem_cons.mp hr with
      | inl he => subst he; exact absurd hn (Nat.not_lt.mpr h1)
      | inr hr => exact absurd hn (Nat.not_lt.mpr (Nat.le_trans (hlo r hr) h1))
    · simp [inRanges, hn, ih hrest, Nat.not_lt.mp hn]

end Marginalia.Text
