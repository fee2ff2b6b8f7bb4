import Mathlib.Data.List.Forall2
import TwinBuild.Text.Utf8

/-!
# Readable text spells what it was read from

A well-formed octet string is read into characters, and each character is spelled with the octets it
was read from. So the readable text of such a string loses nothing: its octets are the string.

Main statement: `ofString_lossy`.
-/

namespace TwinBuild

namespace Octets

theorem ofString_ofList (chars : List Char) :
    ofString (String.ofList chars) = chars.flatMap String.utf8EncodeChar := by
  unfold ofString
  rw [String.toByteArray_ofList, List.utf8Encode]
  simp

@[simp] theorem ofString_append (s t : String) :
    ofString (s ++ t) = ofString s ++ ofString t := by
  unfold ofString
  simp

end Octets

namespace Utf8

/-! ## One character -/

theorem Range.has_iff {r : Range} {b : UInt8} :
    r.has b = true ↔ r.low.toNat ≤ b.toNat ∧ b.toNat ≤ r.high.toNat := by
  simp [Range.has, UInt8.le_iff_toNat_le]

theorem trail_has_iff {b : UInt8} : trail.has b = true ↔ 0x80 ≤ b.toNat ∧ b.toNat ≤ 0xBF :=
  Range.has_iff

theorem toNat_ofNat_of_valid {n : Nat} (h : n.isValidChar) : (Char.ofNat n).val.toNat = n := by
  unfold Char.ofNat
  rw [dif_pos h]
  rfl

/-- **What a first octet is due**: nothing, one octet, or two or three of which the first may be
narrowed. -/
theorem due_cases {b : UInt8} {ranges : List Range} (h : due b = some ranges) :
    (ranges = [] ∧ b.toNat < 0x80)
    ∨ (ranges = [trail] ∧ 0xC2 ≤ b.toNat ∧ b.toNat < 0xE0)
    ∨ (∃ r : Range, ranges = [r, trail] ∧ 0xE0 ≤ b.toNat ∧ b.toNat < 0xF0
      ∧ 0x80 ≤ r.low.toNat ∧ r.high.toNat ≤ 0xBF ∧ (b.toNat = 0xE0 → 0xA0 ≤ r.low.toNat)
      ∧ (b.toNat = 0xED → r.high.toNat ≤ 0x9F))
    ∨ ∃ r : Range, ranges = [r, trail, trail] ∧ 0xF0 ≤ b.toNat ∧ b.toNat ≤ 0xF4
      ∧ 0x80 ≤ r.low.toNat ∧ r.high.toNat ≤ 0xBF ∧ (b.toNat = 0xF0 → 0x90 ≤ r.low.toNat)
      ∧ (b.toNat = 0xF4 → r.high.toNat ≤ 0x8F) := by
  unfold due at h
  simp only [UInt8.lt_iff_toNat_lt, ← UInt8.toNat_inj, UInt8.reduceToNat] at h
  split at h
  · exact .inl ⟨(Option.some.inj h).symm, ‹_›⟩
  split at h
  · cases h
  split at h
  · exact .inr (.inl ⟨(Option.some.inj h).symm, by omega, ‹_›⟩)
  -- three octets, of which the second may be narrowed
  split at h
  · refine .inr (.inr (.inl ⟨_, (Option.some.inj h).symm, ?_⟩))
    simp
    omega
  split at h
  · refine .inr (.inr (.inl ⟨_, (Option.some.inj h).symm, ?_⟩))
    simp
    omega
  split at h
  · refine .inr (.inr (.inl ⟨_, (Option.some.inj h).symm, ?_⟩))
    simp [trail]
    omega
  -- four octets, of which the second may be narrowed
  split at h
  · refine .inr (.inr (.inr ⟨_, (Option.some.inj h).symm, ?_⟩))
    simp
    omega
  split at h
  · refine .inr (.inr (.inr ⟨_, (Option.some.inj h).symm, ?_⟩))
    simp [trail]
    omega
  split at h
  · refine .inr (.inr (.inr ⟨_, (Option.some.inj h).symm, ?_⟩))
    simp
    omega
  · cases h

/-- **A sequence is what its character is spelled with.** -/
theorem utf8EncodeChar_value {b : UInt8} {ranges : List Range} {octets : Octets}
    (hdue : due b = some ranges)
    (h : List.Forall₂ (fun (r : Range) o => r.has o = true) ranges octets) :
    String.utf8EncodeChar (Char.ofNat (value (b :: octets))) = b :: octets := by
  -- in every case: the number is that of a character, and its length and its digits are known
  rcases due_cases hdue with ⟨rfl, hb⟩ | ⟨rfl, hb⟩ | ⟨r, rfl, hb⟩ | ⟨r, rfl, hb⟩
  · cases h
    have hvalue : value [b] = b.toNat := rfl
    have hvalid : (value [b]).isValidChar := Or.inl (by omega)
    unfold String.utf8EncodeChar
    rw [toNat_ofNat_of_valid hvalid]
    simp only
    rw [if_pos (by omega), hvalue, UInt8.ofNat_toNat]
  · obtain ⟨c, _, hc, ⟨⟩, rfl⟩ := List.forall₂_cons_left_iff.1 h
    rw [trail_has_iff] at hc
    have hvalue : value [b, c] = b.toNat % 32 * 64 + c.toNat % 64 := rfl
    have hvalid : (value [b, c]).isValidChar := Or.inl (by omega)
    unfold String.utf8EncodeChar
    rw [toNat_ofNat_of_valid hvalid]
    simp only
    rw [if_neg (by omega), if_pos (by omega)]
    simp only [List.cons.injEq, and_true, ← UInt8.toNat_inj, UInt8.toNat_ofNat']
    omega
  · obtain ⟨c, _, hc, hrest, rfl⟩ := List.forall₂_cons_left_iff.1 h
    obtain ⟨d, _, hd, ⟨⟩, rfl⟩ := List.forall₂_cons_left_iff.1 hrest
    rw [Range.has_iff] at hc
    rw [trail_has_iff] at hd
    have hvalue : value [b, c, d]
        = b.toNat % 16 * 4096 + c.toNat % 64 * 64 + d.toNat % 64 := rfl
    have hvalid : (value [b, c, d]).isValidChar := by
      unfold Nat.isValidChar
      omega
    unfold String.utf8EncodeChar
    rw [toNat_ofNat_of_valid hvalid]
    simp only
    rw [if_neg (by omega), if_neg (by omega), if_pos (by omega)]
    simp only [List.cons.injEq, and_true, ← UInt8.toNat_inj, UInt8.toNat_ofNat']
    omega
  · obtain ⟨c, _, hc, hrest, rfl⟩ := List.forall₂_cons_left_iff.1 h
    obtain ⟨d, _, hd, hlast, rfl⟩ := List.forall₂_cons_left_iff.1 hrest
    obtain ⟨e, _, he, ⟨⟩, rfl⟩ := List.forall₂_cons_left_iff.1 hlast
    rw [Range.has_iff] at hc
    rw [trail_has_iff] at hd he
    have hvalue : value [b, c, d, e] = b.toNat % 8 * 262144 + c.toNat % 64 * 4096
        + d.toNat % 64 * 64 + e.toNat % 64 := rfl
    have hvalid : (value [b, c, d, e]).isValidChar := by
      unfold Nat.isValidChar
      omega
    unfold String.utf8EncodeChar
    rw [toNat_ofNat_of_valid hvalid]
    simp only
    rw [if_neg (by omega), if_neg (by omega), if_neg (by omega)]
    simp only [List.cons.injEq, and_true, ← UInt8.toNat_inj, UInt8.toNat_ofNat']
    omega

/-! ## Whole strings -/

/-- Whether the character of a piece, if it has one, is spelled with the octets it was read from. -/
def Piece.IsSpelled : Piece → Prop
  | scalar c octets => String.utf8EncodeChar c = octets
  | broken _ => True

/-- A sequence that has begun: the octets after the first lie in the ranges that the first one is
due, and what is awaited are the other ranges. -/
def Pending.HasBegun (p : Pending) : Prop :=
  p = .none ∨ ∃ b ranges octets, p.held = b :: octets ∧ due b = some (ranges ++ p.awaited)
    ∧ List.Forall₂ (fun (r : Range) o => r.has o = true) ranges octets

theorem isSpelled_start (b : UInt8) :
    (∀ piece ∈ (start b).1, piece.IsSpelled) ∧ (start b).2.HasBegun := by
  unfold start
  split
  · exact ⟨by simp [Piece.IsSpelled], .inl rfl⟩
  · next hdue =>
    refine ⟨?_, .inl rfl⟩
    rw [List.forall_mem_singleton]
    exact utf8EncodeChar_value hdue .nil
  · next ranges _ hdue =>
    exact ⟨by simp, .inr ⟨b, [], [], rfl, hdue, .nil⟩⟩

/-- **One octet** completes characters that are spelled with what they were read from. -/
theorem isSpelled_step {p : Pending} (h : p.HasBegun) (b : UInt8) :
    (∀ piece ∈ (step p b).1, piece.IsSpelled) ∧ (step p b).2.HasBegun := by
  unfold step
  split
  · exact isSpelled_start b
  · next r awaited hawaited =>
    obtain rfl | ⟨first, ranges, octets, hheld, hdue, hfits⟩ := h
    · cases hawaited
    rw [hawaited] at hdue
    split
    · next hb =>
      have hmore : List.Forall₂ (fun (r : Range) o => r.has o = true)
          (ranges ++ [r]) (octets ++ [b]) := List.rel_append hfits (.cons hb .nil)
      split
      · next hempty =>
        refine ⟨?_, .inl rfl⟩
        rw [List.isEmpty_iff.1 hempty] at hdue
        rw [List.forall_mem_singleton, hheld]
        exact utf8EncodeChar_value hdue hmore
      · refine ⟨by simp, .inr ⟨first, ranges ++ [r], octets ++ [b], ?_, ?_, hmore⟩⟩
        · rw [hheld]
          rfl
        · rw [hdue, List.append_assoc]
          rfl
    · refine ⟨?_, (isSpelled_start b).2⟩
      rw [List.forall_mem_cons]
      exact ⟨trivial, (isSpelled_start b).1⟩

theorem isSpelled_piecesFrom {p : Pending} (h : p.HasBegun) (s : Octets) :
    ∀ piece ∈ piecesFrom p s, piece.IsSpelled := by
  induction s generalizing p with
  | nil =>
      unfold piecesFrom
      split
      · exact fun _ hpiece => absurd hpiece List.not_mem_nil
      · rw [List.forall_mem_singleton]
        trivial
  | cons b rest ih =>
      obtain ⟨hnow, hbegun⟩ := isSpelled_step h b
      rw [piecesFrom, List.forall_mem_append]
      exact ⟨hnow, ih hbegun⟩

/-- A string without broken runs is spelled by its characters. -/
theorem flatMap_getD_of_mapM {pieces : List Piece} {chars : List Char}
    (h : pieces.mapM Piece.char? = some chars) (hspelled : ∀ piece ∈ pieces, piece.IsSpelled) :
    (pieces.map fun piece => piece.char?.getD replacement).flatMap String.utf8EncodeChar
      = pieces.flatMap Piece.octets := by
  induction pieces generalizing chars with
  | nil => rfl
  | cons piece pieces ih =>
      rw [List.forall_mem_cons] at hspelled
      rw [List.mapM_cons] at h
      obtain ⟨c, hc, h⟩ := Option.bind_eq_some_iff.1 h
      obtain ⟨later, hlater, -⟩ := Option.bind_eq_some_iff.1 h
      cases piece with
      | broken octets => cases hc
      | scalar d octets =>
          rw [List.map_cons, List.flatMap_cons, List.flatMap_cons, ih hlater hspelled.2]
          exact congrArg (· ++ _) hspelled.1

/-- **Readable text loses nothing** of a well-formed string. -/
theorem ofString_lossy {s : Octets} (h : isValid s = true) : Octets.ofString (lossy s) = s := by
  unfold isValid decode? at h
  rw [Option.isSome_map] at h
  obtain ⟨chars, hchars⟩ := Option.isSome_iff_exists.1 h
  unfold lossy
  rw [Octets.ofString_ofList,
    flatMap_getD_of_mapM hchars (isSpelled_piecesFrom (.inl rfl) s), flatMap_octets_pieces]

end Utf8

end TwinBuild
