import TwinBuild.Text.CharRange

/-!
# Sets of characters

A set of character numbers is kept as ranges in ascending order with gaps between them, so every set
is written in one way. Union and complement are worked out on the ranges, and the other operations
from these two.

Main statements: `mem_insert` and `mem_complement`, what the operations contain.
-/

namespace TwinBuild

/-- A set of character numbers, as inclusive ranges in ascending order with gaps between them. -/
structure CharSet where
  ranges : List (Nat × Nat) := []
deriving DecidableEq, Repr

namespace CharSet

/-- Put a range into ascending ranges, joined with those that it meets. -/
def insertRange (low high : Nat) : List (Nat × Nat) → List (Nat × Nat)
  | [] => [(low, high)]
  | (a, b) :: rest =>
    if high + 1 < a then (low, high) :: (a, b) :: rest
    else if b + 1 < low then (a, b) :: insertRange low high rest
    else insertRange (min low a) (max high b) rest

/-- The gaps from `next` to `top` between ascending ranges. -/
def gaps (top next : Nat) : List (Nat × Nat) → List (Nat × Nat)
  | [] => if next ≤ top then [(next, top)] else []
  | (a, b) :: rest => (if next < a then [(next, a - 1)] else []) ++ gaps top (b + 1) rest

/-- A set with one more range. -/
def insert (s : CharSet) (low high : Nat) : CharSet := ⟨insertRange low high s.ranges⟩

/-- The set of some ranges. -/
def ofRanges (ranges : List (Nat × Nat)) : CharSet :=
  ranges.foldl (fun s r => s.insert r.1 r.2) {}

/-- The set of one character. -/
def only (c : Char) : CharSet := ⟨[(c.toNat, c.toNat)]⟩

/-- What is in one of two sets. -/
def union (s t : CharSet) : CharSet := t.ranges.foldl (fun u r => u.insert r.1 r.2) s

/-- The numbers up to `top` that are not in a set. -/
def complement (top : Nat) (s : CharSet) : CharSet := ⟨gaps top 0 s.ranges⟩

/-- What is in both of two sets. -/
def inter (top : Nat) (s t : CharSet) : CharSet :=
  ((s.complement top).union (t.complement top)).complement top

/-- What is in the first of two sets and not in the second. -/
def diff (top : Nat) (s t : CharSet) : CharSet := s.inter top (t.complement top)

/-- What is in one of two sets and not in both. -/
def symmDiff (top : Nat) (s t : CharSet) : CharSet := (s.diff top t).union (t.diff top s)

/-- Whether a set has no elements. -/
def isEmpty (s : CharSet) : Bool := s.ranges.isEmpty

/-- Whether no element of a set is above a number. -/
def isWithin (s : CharSet) (top : Nat) : Bool := s.ranges.all fun r => r.2 ≤ top

/-- Whether a number is in a set. -/
def mem (s : CharSet) (n : Nat) : Bool := CharRange.mem n s.ranges

/-- Whether a character is in a set. -/
def has (s : CharSet) (c : Char) : Bool := s.mem c.toNat

/-- The element of a set that has just one. -/
def single? (s : CharSet) : Option Nat :=
  match s.ranges with
  | [(a, b)] => if a = b then some a else none
  | _ => none

/-- Whether a number is covered by one of some ranges. -/
def Covers (ranges : List (Nat × Nat)) (n : Nat) : Prop := ∃ r ∈ ranges, r.1 ≤ n ∧ n ≤ r.2

/-- Whether ranges ascend with gaps between them, all of them at or above `least`. -/
def Spaced (least : Nat) : List (Nat × Nat) → Prop
  | [] => True
  | (a, b) :: rest => least ≤ a ∧ a ≤ b ∧ Spaced (b + 2) rest

theorem Spaced.mono {ranges : List (Nat × Nat)} {least least' : Nat} (h : Spaced least ranges)
    (hle : least' ≤ least) : Spaced least' ranges := by
  cases ranges with
  | nil => trivial
  | cons r rest => exact ⟨Nat.le_trans hle h.1, h.2⟩

theorem mem_of_spaced {ranges : List (Nat × Nat)} {least : Nat} (h : Spaced least ranges)
    (n : Nat) : CharRange.mem n ranges = true ↔ Covers ranges n := by
  have ascending : ∀ (l : List (Nat × Nat)) (m : Nat), Spaced m l → CharRange.Ascending l := by
    intro l
    induction l with
    | nil => intros; trivial
    | cons r l ih =>
      intro m hm
      cases l with
      | nil => exact hm.2.1
      | cons q l =>
        refine ⟨hm.2.1, ?_, ih _ hm.2.2⟩
        have := hm.2.2.1
        omega
  exact CharRange.mem_iff (ascending ranges least h)

theorem covers_insertRange {low high : Nat} (hle : low ≤ high) {ranges : List (Nat × Nat)}
    {least : Nat} (h : Spaced least ranges) (n : Nat) :
    Covers (insertRange low high ranges) n ↔ (low ≤ n ∧ n ≤ high) ∨ Covers ranges n := by
  induction ranges generalizing low high least with
  | nil => simp [insertRange, Covers]
  | cons r rest ih =>
    obtain ⟨a, b⟩ := r
    simp only [insertRange]
    split
    · simp [Covers]
    · split
      · have := ih hle h.2.2
        simp only [Covers, List.mem_cons, exists_eq_or_imp] at this ⊢
        rw [this]
        exact ⟨fun h => h.elim (fun h => .inr (.inl h)) (fun h => h.elim .inl (fun h => .inr (.inr h))),
          fun h => h.elim (fun h => .inr (.inl h)) (fun h => h.elim .inl (fun h => .inr (.inr h)))⟩
      · have hab := h.2.1
        have hmerged : min low a ≤ max high b := by omega
        have := ih hmerged h.2.2
        rw [this]
        simp only [Covers, List.mem_cons, exists_eq_or_imp]
        constructor
        · rintro (h | h)
          · by_cases hn : low ≤ n ∧ n ≤ high
            · exact .inl hn
            · exact .inr (.inl ⟨by omega, by omega⟩)
          · exact .inr (.inr h)
        · rintro (h | h | h)
          · exact .inl ⟨by omega, by omega⟩
          · exact .inl ⟨by omega, by omega⟩
          · exact .inr h

theorem spaced_insertRange {low high : Nat} (hle : low ≤ high) {ranges : List (Nat × Nat)}
    {least : Nat} (h : Spaced least ranges) (hlow : least ≤ low) :
    Spaced least (insertRange low high ranges) := by
  induction ranges generalizing low high least with
  | nil => exact ⟨hlow, hle, trivial⟩
  | cons r rest ih =>
    obtain ⟨a, b⟩ := r
    simp only [insertRange]
    split
    · next hlt => exact ⟨hlow, hle, by omega, h.2.1, h.2.2⟩
    · split
      · next hlt => exact ⟨h.1, h.2.1, ih hle h.2.2 (by omega)⟩
      · have hab := h.2.1
        have ha := h.1
        exact ih (by omega) (h.2.2.mono (by omega)) (by omega)

/-- A set with one more range contains that range and what it contained before. -/
theorem mem_insert {s : CharSet} {least low high : Nat} (hle : low ≤ high)
    (h : Spaced least s.ranges) (n : Nat) :
    (s.insert low high).mem n = true ↔ (low ≤ n ∧ n ≤ high) ∨ s.mem n = true := by
  have h0 : Spaced 0 s.ranges := h.mono (Nat.zero_le _)
  simp only [mem, insert]
  rw [mem_of_spaced (spaced_insertRange hle h0 (Nat.zero_le _)), mem_of_spaced h0,
    covers_insertRange hle h0]

theorem covers_gaps {top next : Nat} {ranges : List (Nat × Nat)} (h : Spaced next ranges)
    (htop : ∀ r ∈ ranges, r.2 ≤ top) (n : Nat) :
    Covers (gaps top next ranges) n ↔ next ≤ n ∧ n ≤ top ∧ ¬ Covers ranges n := by
  induction ranges generalizing next with
  | nil =>
    simp only [gaps, Covers]
    split
    · simp
    · simp
      omega
  | cons r rest ih =>
    obtain ⟨a, b⟩ := r
    have hb : b ≤ top := htop (a, b) (by simp)
    have hspaced : Spaced (b + 1) rest := h.2.2.mono (by omega)
    have hrest := ih hspaced fun r hr => htop r (List.mem_cons_of_mem _ hr)
    have hab := h.2.1
    have habove : ∀ r ∈ rest, b + 1 < r.1 := by
      have hgap : ∀ (l : List (Nat × Nat)) (m : Nat), Spaced m l → ∀ r ∈ l, m ≤ r.1 := by
        intro l
        induction l with
        | nil => simp
        | cons q l ih =>
          intro m hm r hr
          rcases List.mem_cons.1 hr with rfl | hr
          · exact hm.1
          · have := ih (q.2 + 2) hm.2.2 r hr
            have hq := hm.2.1
            have hq' := hm.1
            omega
      intro r hr
      have := hgap rest (b + 2) h.2.2 r hr
      omega
    have hsplit : Covers (gaps top next ((a, b) :: rest)) n
        ↔ (next ≤ n ∧ n < a) ∨ Covers (gaps top (b + 1) rest) n := by
      simp only [gaps, Covers, List.mem_append]
      split
      · next hlt =>
        constructor
        · rintro ⟨r, hr | hr, hn⟩
          · have : r = (next, a - 1) := by simpa using hr
            subst this
            exact .inl ⟨hn.1, by have := hn.2; simp only at this; omega⟩
          · exact .inr ⟨r, hr, hn⟩
        · rintro (hn | ⟨r, hr, hn⟩)
          · exact ⟨(next, a - 1), .inl (by simp), hn.1, by simp only; omega⟩
          · exact ⟨r, .inr hr, hn⟩
      · next hge =>
        constructor
        · rintro ⟨r, hr | hr, hn⟩
          · simp at hr
          · exact .inr ⟨r, hr, hn⟩
        · rintro (hn | ⟨r, hr, hn⟩)
          · omega
          · exact ⟨r, .inr hr, hn⟩
    rw [hsplit, hrest]
    have hcons : Covers ((a, b) :: rest) n ↔ (a ≤ n ∧ n ≤ b) ∨ Covers rest n := by
      simp [Covers]
    rw [hcons]
    have hfar : Covers rest n → b + 1 < n := by
      rintro ⟨r, hr, hn⟩
      have := habove r hr
      omega
    have hnext := h.1
    constructor
    · rintro (hn | hn)
      · refine ⟨hn.1, by omega, ?_⟩
        rintro (hc | hc)
        · omega
        · have := hfar hc; omega
      · refine ⟨by omega, hn.2.1, ?_⟩
        rintro (hc | hc)
        · omega
        · exact hn.2.2 hc
    · rintro ⟨h1, h2, h3⟩
      by_cases hn : n < a
      · exact .inl ⟨h1, hn⟩
      · refine .inr ⟨?_, h2, fun hc => h3 (.inr hc)⟩
        by_cases hnb : n ≤ b
        · exact absurd (.inl ⟨by omega, hnb⟩) h3
        · omega

theorem spaced_gaps {top next : Nat} {ranges : List (Nat × Nat)} (h : Spaced next ranges) :
    Spaced next (gaps top next ranges) := by
  induction ranges generalizing next with
  | nil =>
    simp only [gaps]
    split
    · exact ⟨Nat.le_refl _, by assumption, trivial⟩
    · trivial
  | cons r rest ih =>
    obtain ⟨a, b⟩ := r
    have hab := h.2.1
    have hspaced : Spaced (b + 1) rest := h.2.2.mono (by omega)
    have hrest := ih hspaced
    have hnext := h.1
    simp only [gaps]
    split
    · exact ⟨Nat.le_refl _, by omega, hrest.mono (by omega)⟩
    · exact hrest.mono (by omega)

/-- The complement of a set up to a number contains the numbers up to there that the set does not. -/
theorem mem_complement {s : CharSet} {least top : Nat} (h : Spaced least s.ranges)
    (htop : s.isWithin top = true) (n : Nat) :
    (s.complement top).mem n = true ↔ n ≤ top ∧ ¬ s.mem n = true := by
  have h0 : Spaced 0 s.ranges := h.mono (Nat.zero_le _)
  have hall : ∀ r ∈ s.ranges, r.2 ≤ top := by
    intro r hr
    simpa using List.all_eq_true.1 htop r hr
  simp only [mem, complement]
  rw [mem_of_spaced (spaced_gaps h0), mem_of_spaced h0, covers_gaps h0 hall]
  simp

end CharSet

end TwinBuild
