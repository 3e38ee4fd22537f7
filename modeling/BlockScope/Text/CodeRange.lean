/-!
Membership of a code point in a table of ranges. A class of characters is given by its ranges of
code points in ascending order, each with its first and last member, and the lookup stops at the
first range that begins beyond the code point.
-/

set_option autoImplicit false
set_option relaxedAutoImplicit false

namespace BlockScope

/-- Whether a code point lies in one of the ascending ranges. -/
def inRanges : List (Nat × Nat) → Nat → Bool
  | [], _ => false
  | (first, last) :: rest, code =>
    if code < first then false
    else if code ≤ last then true
    else inRanges rest code

theorem exists_range_of_inRanges {ranges : List (Nat × Nat)} {code : Nat}
    (h : inRanges ranges code = true) : ∃ range ∈ ranges, range.1 ≤ code ∧ code ≤ range.2 := by
  induction ranges with
  | nil => simp [inRanges] at h
  | cons range rest ih =>
    obtain ⟨first, last⟩ := range
    rw [inRanges] at h
    split at h
    · contradiction
    · rename_i hfirst
      split at h
      · rename_i hlast
        exact ⟨(first, last), by simp, by omega, hlast⟩
      · obtain ⟨range, hrange, hbounds⟩ := ih h
        exact ⟨range, List.mem_cons_of_mem _ hrange, hbounds⟩

end BlockScope
