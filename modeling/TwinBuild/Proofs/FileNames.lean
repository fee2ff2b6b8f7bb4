import TwinBuild.Archive
import TwinBuild.Proofs.Places
import TwinBuild.Proofs.ReadableText

/-!
# Names of temporary files and of entries

A temporary name ends in digits, so it is one step down from anywhere. The name of an entry is made
of hexadecimal digits. It tells the digest, and it is never the name of a staged copy.

Main statements: `isName_temporary`, `isName_entryName`, `entryName_inj` and
`entryName_ne_staged`.
-/

namespace TwinBuild

open Octets Place

/-! ## Digits -/

theorem utf8EncodeChar_of_isDigit {c : Char} (h : c.isDigit = true) :
    String.utf8EncodeChar c = [UInt8.ofNat c.val.toNat] ∧ 48 ≤ c.val.toNat ∧ c.val.toNat ≤ 57 := by
  have hbounds : 48 ≤ c.val.toNat ∧ c.val.toNat ≤ 57 := by
    simpa [Char.isDigit, UInt32.le_iff_toNat_le] using h
  refine ⟨?_, hbounds⟩
  unfold String.utf8EncodeChar
  exact if_pos (by omega)

theorem isDigit_of_mem_sixDigits {n : Nat} {b : UInt8} (h : b ∈ Host.sixDigits n) :
    48 ≤ b.toNat ∧ b.toNat ≤ 57 := by
  unfold Host.sixDigits at h
  rcases List.mem_append.1 h with h | h
  · rw [(List.mem_replicate.1 h).2]
    decide
  · rw [Nat.toString_eq_ofList_toDigits, ofString_ofList] at h
    obtain ⟨c, hc, hb⟩ := List.mem_flatMap.1 h
    obtain ⟨hspelled, hbounds⟩ :=
      utf8EncodeChar_of_isDigit (Nat.isDigit_of_mem_toDigits (by decide) (by decide) hc)
    rw [hspelled, List.mem_singleton] at hb
    rw [hb, UInt8.toNat_ofNat']
    omega

/-- The text of a number is made of digits. -/
theorem isDigit_of_mem_toString {n : Nat} {b : UInt8} (h : b ∈ ofString (toString n)) :
    48 ≤ b.toNat ∧ b.toNat ≤ 57 :=
  isDigit_of_mem_sixDigits (List.mem_append_right _ h)

theorem sixDigits_ne_nil (n : Nat) : Host.sixDigits n ≠ [] := by
  intro h
  have hlength := congrArg List.length h
  simp only [Host.sixDigits, List.length_append, List.length_replicate, List.length_nil]
    at hlength
  omega

/-- One hexadecimal digit as an octet. -/
def hexOctet (n : Nat) : UInt8 := UInt8.ofNat (Nat.digitChar (n % 16)).toNat

theorem utf8EncodeChar_hexDigit (n : Nat) :
    String.utf8EncodeChar (hexDigit n) = [hexOctet n] := by
  unfold hexDigit hexOctet
  have hlt : n % 16 < 16 := Nat.mod_lt n (by decide)
  generalize n % 16 = k at hlt
  revert k
  decide

theorem hexOctet_inj {m n : Nat} (h : hexOctet m = hexOctet n) : m % 16 = n % 16 := by
  have hdigits : ∀ j < 16, ∀ k < 16,
      UInt8.ofNat (Nat.digitChar j).toNat = UInt8.ofNat (Nat.digitChar k).toNat → j = k := by
    decide
  exact hdigits _ (Nat.mod_lt m (by decide)) _ (Nat.mod_lt n (by decide)) h

theorem hexOctet_ne (n : Nat) : hexOctet n ≠ slash ∧ hexOctet n ≠ dot := by
  unfold hexOctet
  have hlt : n % 16 < 16 := Nat.mod_lt n (by decide)
  generalize n % 16 = k at hlt
  revert k
  decide

theorem ofString_hex (bytes : Octets) :
    ofString (hex bytes) = bytes.flatMap fun b => [hexOctet (b.toNat / 16), hexOctet b.toNat] := by
  unfold hex
  rw [ofString_ofList, List.flatMap_assoc]
  simp [utf8EncodeChar_hexDigit]

/-- **Hexadecimal digits** tell the octets. -/
theorem ofString_hex_inj {a b : Octets} (h : ofString (hex a) = ofString (hex b)) : a = b := by
  rw [ofString_hex, ofString_hex] at h
  induction a generalizing b with
  | nil =>
      cases b with
      | nil => rfl
      | cons y b => cases h
  | cons x a ih =>
      cases b with
      | nil => cases h
      | cons y b =>
          simp only [List.flatMap_cons, List.cons_append, List.nil_append, List.cons.injEq] at h
          obtain ⟨hhigh, hlow, hrest⟩ := h
          have hx := x.toNat_lt
          have hy := y.toNat_lt
          have hhigh := hexOctet_inj hhigh
          have hlow := hexOctet_inj hlow
          have hxy : x = y := by
            rw [← UInt8.toNat_inj]
            omega
          rw [hxy, ih hrest]

/-! ## Temporary names -/

/-- **A temporary name** is one step down from anywhere. -/
theorem isName_temporary {lead : Octets} (hlead : slash ∉ lead) (n : Nat) :
    IsName (lead ++ Host.sixDigits n) := by
  -- it ends in a digit, which the two special names do not
  have hends : ∃ b ∈ lead ++ Host.sixDigits n, 48 ≤ b.toNat := by
    obtain ⟨b, hb⟩ := List.exists_mem_of_ne_nil _ (sixDigits_ne_nil n)
    exact ⟨b, List.mem_append_right _ hb, (isDigit_of_mem_sixDigits hb).1⟩
  refine ⟨?_, ?_, ?_, ?_⟩
  · intro h
    obtain ⟨b, hb, -⟩ := hends
    rw [h] at hb
    cases hb
  · intro h
    rcases List.mem_append.1 h with h | h
    · exact hlead h
    · have hslash := (isDigit_of_mem_sixDigits h).1
      exact absurd hslash (by decide)
  · intro h
    rw [h] at hends
    exact absurd hends (by decide)
  · intro h
    rw [h] at hends
    exact absurd hends (by decide)

/-- A path that ends in a temporary name does not insist on a directory. -/
theorem wantsDirectory_temporary (base : Path) {lead : Octets} (hlead : slash ∉ lead) (n : Nat) :
    Files.wantsDirectory (base.join ⟨lead ++ Host.sixDigits n⟩) = false := by
  have hname := isName_temporary hlead n
  have hlast : ∀ before : Octets,
      (before ++ (lead ++ Host.sixDigits n)).getLast? ≠ some slash := by
    intro before h
    rw [← List.append_assoc, List.getLast?_append_of_ne_nil _ (sixDigits_ne_nil n)] at h
    have hslash := (isDigit_of_mem_sixDigits (List.mem_of_getLast? h)).1
    exact absurd hslash (by decide)
  unfold Files.wantsDirectory
  rw [beq_eq_false_iff_ne]
  rcases Path.join_cases base ⟨_⟩ (isAbsolute_of_isName hname) with
    ⟨-, hjoin⟩ | ⟨before, -, hjoin⟩ | ⟨-, hjoin⟩
  · rw [hjoin]
    exact hlast []
  · rw [hjoin, List.append_cons]
    exact hlast _
  · rw [hjoin, List.append_cons]
    exact hlast _

/-! ## Names of entries -/

namespace Archive

theorem entryName_eq (p : Path) :
    entryName p = (Sha256.digest p.text).flatMap fun b =>
      [hexOctet (b.toNat / 16), hexOctet b.toNat] := ofString_hex _

/-- **One digest, one name.** -/
theorem entryName_inj {p q : Path} (h : entryName p = entryName q) :
    Sha256.digest p.text = Sha256.digest q.text := ofString_hex_inj h

theorem entryName_ne_nil (p : Path) : entryName p ≠ [] := by
  intro h
  have hlength := Sha256.length_digest p.text
  rw [entryName_eq] at h
  cases hdigest : Sha256.digest p.text with
  | nil =>
      rw [hdigest] at hlength
      cases hlength
  | cons b rest =>
      rw [hdigest] at h
      cases h

theorem isHex_of_mem_entryName {p : Path} {b : UInt8} (h : b ∈ entryName p) :
    b ≠ slash ∧ b ≠ dot := by
  rw [entryName_eq] at h
  obtain ⟨octet, -, hb⟩ := List.mem_flatMap.1 h
  rcases List.mem_pair.1 hb with rfl | rfl
  · exact hexOctet_ne _
  · exact hexOctet_ne _

/-- **The name of an entry** is one step down from the archive. -/
theorem isName_entryName (p : Path) : IsName (entryName p) := by
  have hdot : dot ∉ entryName p := fun h => (isHex_of_mem_entryName h).2 rfl
  refine ⟨entryName_ne_nil p, fun h => (isHex_of_mem_entryName h).1 rfl, ?_, ?_⟩
  · intro h
    rw [h] at hdot
    exact hdot (by decide)
  · intro h
    rw [h] at hdot
    exact hdot (by decide)

/-- **No entry has the name of a staged copy**, which begins with a full stop. -/
theorem entryName_ne_staged (p : Path) (rest : Octets) :
    entryName p ≠ stagedLead ++ rest := by
  intro h
  have hdot : dot ∈ stagedLead ++ rest := List.mem_append_left _ (by decide)
  rw [← h] at hdot
  exact (isHex_of_mem_entryName hdot).2 rfl

end Archive

end TwinBuild
