set_option autoImplicit false

/-!
# Sets of code points

A set is a list of closed ranges in increasing order. `inRanges` stops at the first range
that begins beyond the code point.
-/

namespace ExpressionGraphs.Text

def inRanges : List (Nat × Nat) → Nat → Bool
  | [], _ => false
  | (low, high) :: rest, n => low ≤ n && (n ≤ high || inRanges rest n)

theorem exists_range_of_inRanges {ranges : List (Nat × Nat)} {n : Nat}
    (h : inRanges ranges n = true) : ∃ r ∈ ranges, r.1 ≤ n ∧ n ≤ r.2 := by
  induction ranges with
  | nil => simp [inRanges] at h
  | cons r rest ih =>
    simp only [inRanges, Bool.and_eq_true, Bool.or_eq_true, decide_eq_true_eq] at h
    rcases h with ⟨low, high | tail⟩
    · exact ⟨r, List.mem_cons_self, low, high⟩
    · obtain ⟨s, hs, bounds⟩ := ih tail
      exact ⟨s, List.mem_cons_of_mem _ hs, bounds⟩

end ExpressionGraphs.Text
