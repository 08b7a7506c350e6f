/-!
Tables of character ranges. A table lists closed ranges of code points in ascending order, so a
search may stop at the first range that begins past the code point; `inRanges_iff` says that it
misses nothing. The tables of this library follow version 17 of Unicode.
-/

namespace RelStore.Text
set_option autoImplicit false

def inRanges (n : Nat) : List (Nat × Nat) → Bool
  | [] => false
  | (lo, hi) :: rest => if n < lo then false else if n ≤ hi then true else inRanges n rest

/-- Whether every range is nonempty and begins at `bound` or later, past the range before it. -/
def ascendingFrom (bound : Nat) : List (Nat × Nat) → Bool
  | [] => true
  | (lo, hi) :: rest => decide (bound ≤ lo) && decide (lo ≤ hi) && ascendingFrom (hi + 1) rest

theorem le_of_ascendingFrom {bound : Nat} {ranges : List (Nat × Nat)}
    (h : ascendingFrom bound ranges = true) {r : Nat × Nat} (hr : r ∈ ranges) : bound ≤ r.1 := by
  induction ranges generalizing bound with
  | nil => cases hr
  | cons r' rest ih =>
    obtain ⟨lo, hi⟩ := r'
    simp only [ascendingFrom, Bool.and_eq_true, decide_eq_true_eq] at h
    cases hr with
    | head => exact h.1.1
    | tail _ hr => have := ih h.2 hr; omega

theorem inRanges_iff {n bound : Nat} {ranges : List (Nat × Nat)}
    (h : ascendingFrom bound ranges = true) :
    inRanges n ranges = true ↔ ∃ r ∈ ranges, r.1 ≤ n ∧ n ≤ r.2 := by
  induction ranges generalizing bound with
  | nil => simp [inRanges]
  | cons r rest ih =>
    obtain ⟨lo, hi⟩ := r
    simp only [ascendingFrom, Bool.and_eq_true, decide_eq_true_eq] at h
    by_cases hlo : n < lo
    · simp only [inRanges, if_pos hlo, Bool.false_eq_true, List.mem_cons, false_iff]
      rintro ⟨r, rfl | hr, hn⟩
      · simp only at hn; omega
      · have := le_of_ascendingFrom h.2 hr; omega
    · by_cases hhi : n ≤ hi
      · simp only [inRanges, if_neg hlo, if_pos hhi, true_iff]
        exact ⟨(lo, hi), List.mem_cons_self, by simp only; omega, hhi⟩
      · simp only [inRanges, if_neg hlo, if_neg hhi, ih h.2, List.mem_cons]
        constructor
        · rintro ⟨r, hr, hn⟩
          exact ⟨r, .inr hr, hn⟩
        · rintro ⟨r, rfl | hr, hn⟩
          · simp only at hn; omega
          · exact ⟨r, hr, hn⟩

end RelStore.Text
