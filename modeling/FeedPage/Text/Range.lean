-- SUMMARY: Classes of characters given as a sorted list of code point ranges.
import FeedPage.Text.Basic

/-!
# Ranges of code points

A class of characters is a list of closed ranges of code points, in increasing order, as the tables
of the character database give it.
-/

namespace FeedPage.Text

/-- Closed ranges of code points, in increasing order. -/
abbrev Ranges := List (Nat × Nat)

/-- Whether a code point lies in one of the ranges; the search stops at the first range above it. -/
def Ranges.contains : Ranges → Nat → Bool
  | [], _ => false
  | (lo, hi) :: rs, n => if n < lo then false else n ≤ hi || contains rs n

/-- A range list says yes only inside one of its ranges. -/
theorem Ranges.mem_of_contains {rs : Ranges} {n : Nat} (h : rs.contains n = true) :
    ∃ r ∈ rs, r.1 ≤ n ∧ n ≤ r.2 := by
  induction rs with
  | nil => simp [contains] at h
  | cons r rs ih =>
    obtain ⟨lo, hi⟩ := r
    simp only [contains] at h
    split at h
    · cases h
    · rcases Bool.or_eq_true .. ▸ h with h | h
      · exact ⟨(lo, hi), by simp, by omega, by simpa using h⟩
      · obtain ⟨r, hr, hn⟩ := ih h
        exact ⟨r, by simp [hr], hn⟩

end FeedPage.Text
