import Mathlib.Data.List.Basic

/-!
# Interleavings

Two sequences that are carried out side by side happen in some order that keeps each of them in
order. Where one of them is a single step, such an order is a place for that step.

Main statement: `interleaving_singleton_iff`, the interleavings of one step with a sequence are its
insertions.
-/

namespace TwinBuild

/-- `Interleaving xs ys zs`: the list `zs` is made of `xs` and `ys`, with the order of each kept. -/
inductive Interleaving {α : Type} : List α → List α → List α → Prop
  | nil : Interleaving [] [] []
  | left {x : α} {xs ys zs : List α} : Interleaving xs ys zs → Interleaving (x :: xs) ys (x :: zs)
  | right {y : α} {xs ys zs : List α} : Interleaving xs ys zs → Interleaving xs (y :: ys) (y :: zs)

namespace Interleaving

variable {α : Type}

theorem nil_left (ys : List α) : Interleaving [] ys ys := by
  induction ys with
  | nil => exact .nil
  | cons y ys ih => exact .right ih

theorem eq_of_nil_left {ys zs : List α} (h : Interleaving [] ys zs) : zs = ys := by
  induction ys generalizing zs with
  | nil =>
      cases h
      rfl
  | cons y ys ih =>
      cases h with
      | right h => rw [ih h]

end Interleaving

/-- **One step beside a sequence.** The step comes somewhere in the sequence, and every place is
possible. -/
theorem interleaving_singleton_iff {α : Type} {x : α} {ys zs : List α} :
    Interleaving [x] ys zs ↔ ∃ k, zs = ys.take k ++ x :: ys.drop k := by
  constructor
  · intro h
    induction ys generalizing zs with
    | nil =>
        cases h with
        | left h => exact ⟨0, by rw [h.eq_of_nil_left]; rfl⟩
    | cons y ys ih =>
        cases h with
        | left h => exact ⟨0, by rw [h.eq_of_nil_left]; rfl⟩
        | right h =>
            obtain ⟨k, rfl⟩ := ih h
            exact ⟨k + 1, rfl⟩
  · rintro ⟨k, rfl⟩
    induction ys generalizing k with
    | nil =>
        rw [List.take_nil, List.drop_nil]
        exact .left .nil
    | cons y ys ih =>
        cases k with
        | zero => exact .left (.nil_left _)
        | succ k => exact .right (ih k)

end TwinBuild
