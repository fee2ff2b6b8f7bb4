import TwinBuild.Text.CharRange

/-!
# Blanks

The blanks are the characters of the standard's white-space property. Flag lists are cut at them,
and log directives are trimmed of them.
-/

namespace TwinBuild.Text

/-- The blanks, as inclusive ranges in ascending order. -/
def blankRanges : List (Nat × Nat) := [
  (0x9, 0xD), (0x20, 0x20), (0x85, 0x85), (0xA0, 0xA0), (0x1680, 0x1680), (0x2000, 0x200A),
  (0x2028, 0x2029), (0x202F, 0x202F), (0x205F, 0x205F), (0x3000, 0x3000)]

/-- Whether a character is a blank. -/
def isBlank (c : Char) : Bool := CharRange.mem c.toNat blankRanges

/-- The maximal runs of characters that are no blanks. -/
def words (cs : List Char) : List (List Char) :=
  match cs.foldr step ([], []) with
  | ([], done) => done
  | (run, done) => run :: done
where
  /-- Put one character before the run and the words that follow it. -/
  step (c : Char) : List Char × List (List Char) → List Char × List (List Char)
    | (run, done) =>
      if isBlank c then ([], if run.isEmpty then done else run :: done) else (c :: run, done)

/-- The text without the blanks at its two ends. -/
def trim (cs : List Char) : List Char :=
  ((cs.dropWhile isBlank).reverse.dropWhile isBlank).reverse

/-- A text without blanks is left as it is. -/
theorem trim_eq_self {text : List Char} (h : ∀ c ∈ text, isBlank c = false) :
    trim text = text := by
  have hdrop : ∀ cs : List Char, (∀ c ∈ cs, isBlank c = false) →
      cs.dropWhile isBlank = cs := by
    intro cs hcs
    cases cs with
    | nil => rfl
    | cons c cs => rw [List.dropWhile_cons_of_neg (by simp [hcs c List.mem_cons_self])]
  unfold trim
  rw [hdrop text h, hdrop text.reverse fun c hc => h c (List.mem_reverse.1 hc),
    List.reverse_reverse]

example : words "-a  -b\u00a0-c ".toList = ["-a".toList, "-b".toList, "-c".toList] := by decide

end TwinBuild.Text
