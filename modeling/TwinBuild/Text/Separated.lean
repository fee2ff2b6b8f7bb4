/-!
# Lists between separators

Search lists, paths and log directives are lists of parts with a separator between neighbours.
This module cuts such a text into its parts and joins parts into a text, for any kind of letter.

Main statements: `join_split`, cutting at a separator loses nothing, and `split_join`, it finds the
parts that were joined.
-/

namespace TwinBuild.Separated

variable {α : Type}

/-- The parts between the separators; there is always one more part than there are separators. -/
def split [DecidableEq α] (sep : α) : List α → List (List α)
  | [] => [[]]
  | b :: rest =>
    if b = sep then [] :: split sep rest
    else match split sep rest with
      | [] => [[b]]
      | part :: parts => (b :: part) :: parts

/-- The parts one after the other, with `sep` between neighbours. -/
def join (sep : List α) : List (List α) → List α
  | [] => []
  | [last] => last
  | first :: second :: rest => first ++ sep ++ join sep (second :: rest)

theorem split_ne_nil [DecidableEq α] (sep : α) (s : List α) : split sep s ≠ [] := by
  cases s with
  | nil => simp [split]
  | cons b rest =>
    simp only [split]
    split
    · simp
    · split <;> simp

/-- Cutting at a separator and joining with it again gives the text back. -/
theorem join_split [DecidableEq α] (sep : α) (s : List α) : join [sep] (split sep s) = s := by
  induction s with
  | nil => rfl
  | cons b rest ih =>
    simp only [split]
    split
    · next h =>
      subst h
      cases hs : split b rest with
      | nil => exact absurd hs (split_ne_nil b rest)
      | cons part parts =>
        rw [hs] at ih
        simp [join, ih]
    · next h =>
      cases hs : split sep rest with
      | nil => exact absurd hs (split_ne_nil sep rest)
      | cons part parts =>
        rw [hs] at ih
        cases parts with
        | nil => simpa [join] using ih
        | cons second others => simpa [join] using ih

/-- A part without separators is cut off whole. -/
theorem split_append_cons [DecidableEq α] (sep : α) (part rest : List α) (h : sep ∉ part) :
    split sep (part ++ sep :: rest) = part :: split sep rest := by
  induction part with
  | nil => simp [split]
  | cons b part ih =>
    simp only [List.mem_cons, not_or] at h
    simp [split, Ne.symm h.1, ih h.2]

theorem split_eq_singleton [DecidableEq α] (sep : α) (part : List α) (h : sep ∉ part) :
    split sep part = [part] := by
  induction part with
  | nil => rfl
  | cons b part ih =>
    simp only [List.mem_cons, not_or] at h
    simp [split, Ne.symm h.1, ih h.2]

/-- Cutting finds the parts that were joined, if none of them holds the separator. -/
theorem split_join [DecidableEq α] (sep : α) (parts : List (List α)) (hne : parts ≠ [])
    (h : ∀ part ∈ parts, sep ∉ part) : split sep (join [sep] parts) = parts := by
  induction parts with
  | nil => exact absurd rfl hne
  | cons first parts ih =>
    cases parts with
    | nil => exact split_eq_singleton sep first (h first (by simp))
    | cons second rest =>
      have hrest := ih (by simp) fun part hp => h part (List.mem_cons_of_mem _ hp)
      have hjoin : join [sep] (first :: second :: rest)
          = first ++ sep :: join [sep] (second :: rest) := by simp [join]
      rw [hjoin, split_append_cons sep first _ (h first (by simp)), hrest]

end TwinBuild.Separated
