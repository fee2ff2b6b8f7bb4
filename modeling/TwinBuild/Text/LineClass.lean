import TwinBuild.Text.CharRange
import TwinBuild.Text.LineClass.Ranges

/-!
# Where lines may end

The classes that characters fall into where lines are broken, and the standard's rule by which
neighbouring classes decide whether a line may end between them.

The rule reads the text from left to right and looks at one character ahead, so what it needs of the
text before is a small summary: `Neighbour`.
-/

namespace TwinBuild.Text

/-- The class of a character in line breaking. -/
inductive LineClass where
  | mandatory
  | carriageReturn
  | lineFeed
  | nextLine
  | space
  | zeroWidthSpace
  | wordJoiner
  | glue
  | joiner
  | combining
  | opening
  | closing
  | closingParenthesis
  | quotation
  | exclamation
  | separator
  | solidus
  | nonStarter
  | numeric
  | amountBefore
  | amountAfter
  | letter
  | hebrew
  | ideograph
  | emojiBase
  | emojiModifier
  | leader
  | hyphen
  | breakAfter
  | breakBefore
  | breakBoth
  | contingent
  | leadingJamo
  | vowelJamo
  | trailingJamo
  | openSyllable
  | closedSyllable
  | regional
deriving DecidableEq, Repr

namespace LineClass

/-- The classes but those of letters and of Hangul syllables, each with its characters. -/
def table : List (LineClass × List (Nat × Nat)) := [
  (mandatory, [(0xB, 0xC), (0x2028, 0x2029)]), (carriageReturn, [(0xD, 0xD)]),
  (lineFeed, [(0xA, 0xA)]), (nextLine, [(0x85, 0x85)]), (space, [(0x20, 0x20)]),
  (zeroWidthSpace, [(0x200B, 0x200B)]), (wordJoiner, [(0x2060, 0x2060), (0xFEFF, 0xFEFF)]),
  (glue, glueRanges), (joiner, [(0x200D, 0x200D)]), (combining, combiningRanges),
  (opening, openingRanges), (closing, closingRanges),
  (closingParenthesis, [(0x29, 0x29), (0x5D, 0x5D)]), (quotation, quotationRanges),
  (exclamation, exclamationRanges), (separator, separatorRanges), (solidus, [(0x2F, 0x2F)]),
  (nonStarter, nonStarterRanges), (numeric, numericRanges), (amountBefore, amountBeforeRanges),
  (amountAfter, amountAfterRanges), (hebrew, hebrewRanges), (ideograph, ideographRanges),
  (emojiBase, emojiBaseRanges), (emojiModifier, [(0x1F3FB, 0x1F3FF)]), (leader, leaderRanges),
  (hyphen, [(0x2D, 0x2D)]), (breakAfter, breakAfterRanges), (breakBefore, breakBeforeRanges),
  (breakBoth, [(0x2014, 0x2014), (0x2E3A, 0x2E3B)]), (contingent, [(0xFFFC, 0xFFFC)]),
  (leadingJamo, [(0x1100, 0x115F), (0xA960, 0xA97C)]),
  (vowelJamo, [(0x1160, 0x11A7), (0xD7B0, 0xD7C6)]),
  (trailingJamo, [(0x11A8, 0x11FF), (0xD7CB, 0xD7FB)]), (regional, [(0x1F1E6, 0x1F1FF)])]

/-- The first and the last of the syllables of Hangul. -/
def syllables : Nat × Nat := (0xAC00, 0xD7A3)

/-- How many syllables begin alike; the first of them is open. -/
def syllablesAlike : Nat := 28

/-- The class of a character. -/
def ofChar (c : Char) : LineClass :=
  match table.find? fun e => CharRange.mem c.toNat e.2 with
  | some (k, _) => k
  | none =>
    if syllables.1 ≤ c.toNat && c.toNat ≤ syllables.2 then
      if (c.toNat - syllables.1) % syllablesAlike = 0 then openSyllable else closedSyllable
    else letter

/-- The classes after which a line must end. -/
def endsLine (k : LineClass) : Bool := [mandatory, carriageReturn, lineFeed, nextLine].contains k

/-- Letters of any alphabet. -/
def isLetter (k : LineClass) : Bool := k = letter || k = hebrew

/-- Pictures and ideographs. -/
def isPicture (k : LineClass) : Bool := k = ideograph || k = emojiBase || k = emojiModifier

/-- The signs of an amount. -/
def isAmountSign (k : LineClass) : Bool := k = amountBefore || k = amountAfter

/-- Syllables of Hangul and their parts. -/
def isHangul (k : LineClass) : Bool :=
  [leadingJamo, vowelJamo, trailingJamo, openSyllable, closedSyllable].contains k

/-- Closing brackets of any kind. -/
def isClosing (k : LineClass) : Bool := k = closing || k = closingParenthesis

/-- The classes that stay with what comes before them, even across spaces. -/
def staysBehind (k : LineClass) : Bool :=
  k.isClosing || k = exclamation || k = separator || k = solidus

/-- Marks that belong to the character before them. -/
def extendsBefore (k : LineClass) : Bool := k = combining || k = joiner

/-- Whether two neighbours are parts of one number or amount, or of one word. -/
def joinsWord (before after : LineClass) : Bool :=
  (before.isLetter && (after.isLetter || after = numeric || after.isAmountSign))
    || (before = numeric && (after.isLetter || after = numeric || after.isAmountSign))
    || (before.isAmountSign && (after.isLetter || after = numeric || after = opening))
    || (before.isClosing && after.isAmountSign)
    || ([hyphen, separator, solidus].contains before && after = numeric)
    || (before = separator && after.isLetter)
    || (before = amountBefore && after.isPicture)
    || (before.isPicture && after = amountAfter)
    || (before = amountBefore && after.isHangul)
    || (before.isHangul && after = amountAfter)

/-- Whether two neighbours are parts of one syllable. -/
def joinsSyllable (before after : LineClass) : Bool :=
  (before = leadingJamo && after.isHangul && after != trailingJamo)
    || ((before = vowelJamo || before = openSyllable)
      && (after = vowelJamo || after = trailingJamo))
    || ((before = trailingJamo || before = closedSyllable) && after = trailingJamo)

/-- Whether a bracket stands within a word. -/
def bracketsWord (before after : LineClass) : Bool :=
  ((before.isLetter || before = numeric) && after = opening)
    || (before = closingParenthesis && (after.isLetter || after = numeric))

end LineClass

/-- What the rule needs to know of the text before. -/
structure Neighbour where
  /-- The class of the last character that is no space and extends no other, or `none` if a line has
  just begun. -/
  base : Option LineClass := none
  /-- Whether spaces follow it. -/
  spaced : Bool := false
  /-- Whether the very last character is a joiner. -/
  joined : Bool := false
  /-- Whether it is a hyphen after a Hebrew letter. -/
  hebrewHyphen : Bool := false
  /-- Whether an odd number of regional indicators end here. -/
  oddRegionals : Bool := false
deriving DecidableEq, Repr

namespace Neighbour

/-- Whether a line may end before a character, if only the character before counts and no space is
between them. -/
def breaksAt (n : Neighbour) (before after : LineClass) : Bool :=
  if after = .quotation || before = .quotation then false
  else if after = .contingent || before = .contingent then true
  else if after = .breakAfter || after = .hyphen || after = .nonStarter || before = .breakBefore then
    false
  else if n.hebrewHyphen || (before = .solidus && after = .hebrew) then false
  else if after = .leader then false
  else if before.joinsWord after || before.joinsSyllable after || before.bracketsWord after then
    false
  else if before = .regional && after = .regional then !n.oddRegionals
  else !(before = .emojiBase && after = .emojiModifier)

/-- Whether a line may end between what came before and a character that extends nothing. -/
def breaksBefore (n : Neighbour) (after : LineClass) : Bool :=
  let before := n.base.getD .space
  if after = .wordJoiner then false
  else if !n.spaced && (before = .wordJoiner || before = .glue) then false
  else if !n.spaced && after = .glue && before != .breakAfter && before != .hyphen then false
  else if after.staysBehind || before = .opening then false
  else if before = .quotation && after = .opening then false
  else if before.isClosing && after = .nonStarter then false
  else if before = .breakBoth && after = .breakBoth then false
  else n.spaced || n.breaksAt before after

/-- Whether a line may end between what came before and a character. -/
def mayEndBefore (n : Neighbour) (after : LineClass) : Bool :=
  let before := n.base.getD .space
  if !n.spaced && before = .carriageReturn then after != .lineFeed
  else if !n.spaced && before.endsLine then true
  else if after.endsLine || after = .space || after = .zeroWidthSpace then false
  else if before = .zeroWidthSpace then true
  else if n.joined then false
  else if after.extendsBefore then n.spaced && n.breaksBefore .letter
  else n.breaksBefore after

/-- What the rule needs to know after one more character. -/
def next (n : Neighbour) (k : LineClass) : Neighbour :=
  let before := n.base.getD .space
  let fresh := n.spaced || n.base.isNone || before.endsLine || before = .zeroWidthSpace
  if k = .space then
    { base := n.base.filter fun k => !k.endsLine, spaced := true }
  else if k.extendsBefore && !fresh then { n with joined := k = .joiner }
  else
    { base := some (if k.extendsBefore then .letter else k)
      joined := k = .joiner
      hebrewHyphen := !n.spaced && before = .hebrew && (k = .hyphen || k = .breakAfter)
      oddRegionals :=
        k = .regional && (n.spaced || before != .regional || !n.oddRegionals) }

end Neighbour

/-- The characters of a text, each with whether a line may end before it. -/
def withBreaks (text : List Char) : List (Char × Bool) := go {} true text
where
  /-- The characters after those that `n` sums up; `isFirst` says that none came before. -/
  go (n : Neighbour) (isFirst : Bool) : List Char → List (Char × Bool)
    | [] => []
    | c :: rest =>
      let k := LineClass.ofChar c
      (c, !isFirst && n.mayEndBefore k) :: go (n.next k) false rest

end TwinBuild.Text
