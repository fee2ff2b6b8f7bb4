/-!
# Sets of characters given by ranges

A property of characters is a list of inclusive ranges of character numbers in ascending order.
Main statement: `mem_iff`, reading the list in order decides membership in its union.
-/

namespace TwinBuild.CharRange

/-- Whether a character number lies in one of the ranges, which ascend. -/
def mem (n : Nat) : List (Nat × Nat) → Bool
  | [] => false
  | (low, high) :: rest => if n < low then false else n ≤ high || mem n rest

/-- The ranges ascend without touching. -/
def Ascending : List (Nat × Nat) → Prop
  | [] => True
  | [(low, high)] => low ≤ high
  | (low, high) :: (low', high') :: rest =>
    low ≤ high ∧ high < low' ∧ Ascending ((low', high') :: rest)

theorem lt_low_of_ascending {low high : Nat} {rest : List (Nat × Nat)}
    (h : Ascending ((low, high) :: rest)) : ∀ r ∈ rest, high < r.1 := by
  induction rest generalizing low high with
  | nil => simp
  | cons next rest ih =>
    obtain ⟨low', high'⟩ := next
    intro r hr
    rcases List.mem_cons.1 hr with rfl | hr
    · exact h.2.1
    · have hle : low' ≤ high' := by
        cases rest with
        | nil => exact h.2.2
        | cons _ _ => exact h.2.2.1
      have hlt := ih h.2.2 r hr
      have := h.2.1
      omega

/-- Reading ascending ranges in order decides membership in their union. -/
theorem mem_iff {n : Nat} {ranges : List (Nat × Nat)} (h : Ascending ranges) :
    mem n ranges = true ↔ ∃ r ∈ ranges, r.1 ≤ n ∧ n ≤ r.2 := by
  induction ranges with
  | nil => simp [mem]
  | cons r rest ih =>
    obtain ⟨low, high⟩ := r
    have hrest : Ascending rest := by
      cases rest with
      | nil => trivial
      | cons _ _ => exact h.2.2
    have hlow := lt_low_of_ascending h
    have hle : low ≤ high := by
      cases rest with
      | nil => exact h
      | cons _ _ => exact h.1
    simp only [mem]
    split
    · next hn =>
      simp only [Bool.false_eq_true, List.mem_cons, exists_eq_or_imp, false_iff, not_or,
        not_exists, not_and]
      refine ⟨by omega, fun r hr hr' => ?_⟩
      have := hlow r hr
      omega
    · next hn =>
      simp only [Bool.or_eq_true, decide_eq_true_eq, ih hrest, List.mem_cons, exists_eq_or_imp]
      constructor
      · rintro (h | h)
        · exact Or.inl ⟨by omega, h⟩
        · exact Or.inr h
      · rintro (h | h)
        · exact Or.inl h.2
        · exact Or.inr h

end TwinBuild.CharRange
