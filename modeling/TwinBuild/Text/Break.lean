import TwinBuild.Text.LineClass
import TwinBuild.Text.Width

/-!
# The words of a line

A word reaches from one place where a line may end to the next; its spaces come last. What only
steers the terminal is not looked at when those places are sought, and goes with the character that
follows it. Hyphens, drawn or soft, end no word.

Main statement: `text_breakWords`, the words of a line make it up.
-/

namespace TwinBuild.Text

/-- The hyphen that is drawn only at the end of a line. -/
def softHyphen : Char := '\u00ad'

/-- Whether a character is a hyphen, after which no word ends. -/
def isHyphen (c : Char) : Bool := c = '-' || c = softHyphen

/-- The characters, without the places after a hyphen. -/
def keepHyphenated (isAfterHyphen : Bool) : List (Char × Bool) → List (Char × Bool)
  | [] => []
  | (c, b) :: rest => (c, b && !isAfterHyphen) :: keepHyphenated (isHyphen c) rest

/-- The characters, without the last place that there was. -/
def dropLastBreak : List (Char × Bool) → List (Char × Bool)
  | [] => []
  | (c, b) :: rest =>
    if rest.any (·.2) then (c, b) :: dropLastBreak rest else (c, false) :: rest

/-- Whether a word begins at each of the characters of a text. The end of the text is a place like
others, but after a hyphen, and the last place of all is not used. -/
def wordStarts (text : List Char) : List Bool :=
  let marked := keepHyphenated false (withBreaks text)
  let used := if (text.getLast?.map isHyphen).getD false then dropLastBreak marked else marked
  used.map (·.2)

/-- The glyphs in groups that begin where `starts` says so of a shown character; `held` is the
reversed group so far, and `controls` the reversed controls since its last character. -/
def groupsFrom (held controls : List Glyph) : List Bool → List Glyph → List (List Glyph)
  | _, [] => if (controls ++ held).isEmpty then [] else [(controls ++ held).reverse]
  | starts, .control text :: rest => groupsFrom held (.control text :: controls) starts rest
  | starts, .shown c :: rest =>
    if starts.headD false then
      held.reverse :: groupsFrom (.shown c :: controls) [] (starts.drop 1) rest
    else groupsFrom (.shown c :: (controls ++ held)) [] (starts.drop 1) rest

theorem flatten_groupsFrom (glyphs held controls : List Glyph) (starts : List Bool) :
    (groupsFrom held controls starts glyphs).flatten
      = held.reverse ++ controls.reverse ++ glyphs := by
  induction glyphs generalizing held controls starts with
  | nil =>
    simp only [groupsFrom]
    split
    · next h => simp_all
    · simp
  | cons g rest ih =>
    cases g with
    | control text => simp [groupsFrom, ih]
    | shown c =>
      simp only [groupsFrom]
      split <;> simp [ih]

/-- A word with the number of spaces that follow it. -/
structure Word where
  text : List Char
  spaces : Nat
deriving Repr, DecidableEq

namespace Word

/-- The word of a text, whose last spaces are the spaces after it. -/
def ofText (text : List Char) : Word :=
  ⟨(text.reverse.dropWhile (· = ' ')).reverse, (text.reverse.takeWhile (· = ' ')).length⟩

/-- The text of a word with its spaces. -/
def wholeText (w : Word) : List Char := w.text ++ List.replicate w.spaces ' '

/-- The columns that a word fills without its spaces. -/
def width (w : Word) : Nat := (Glyph.ofChars w.text).foldl (fun n g => n + g.width) 0

theorem takeWhile_space (text : List Char) :
    text.takeWhile (· = ' ') = List.replicate (text.takeWhile (· = ' ')).length ' ' := by
  induction text with
  | nil => rfl
  | cons c rest ih =>
    by_cases h : c = ' '
    · subst h
      simpa [List.replicate_succ] using ih
    · simp [h]

theorem wholeText_ofText (text : List Char) : (ofText text).wholeText = text := by
  have hspaces : (text.reverse.takeWhile (· = ' ')).reverse
      = List.replicate (text.reverse.takeWhile (· = ' ')).length ' ' := by
    rw [takeWhile_space]
    simp
  simp only [wholeText, ofText]
  rw [← hspaces, ← List.reverse_append, List.takeWhile_append_dropWhile, List.reverse_reverse]

end Word

/-- The words of a line that begins with no space. -/
def breakWords (line : List Char) : List Word :=
  let glyphs := Glyph.ofChars line
  (groupsFrom [] [] (wordStarts (glyphs.filterMap Glyph.char?)) glyphs).map fun group =>
    Word.ofText (group.flatMap Glyph.text)

/-- The words of a line with their spaces make it up. -/
theorem text_breakWords (line : List Char) :
    (breakWords line).flatMap Word.wholeText = line := by
  have hflat : ∀ groups : List (List Glyph),
      (groups.map fun group => Word.ofText (group.flatMap Glyph.text)).flatMap Word.wholeText
        = groups.flatten.flatMap Glyph.text := by
    intro groups
    induction groups with
    | nil => rfl
    | cons group groups ih =>
      simp only [List.map_cons, List.flatMap_cons, List.flatten_cons, List.flatMap_append, ih,
        Word.wholeText_ofText]
  simp only [breakWords, hflat, flatten_groupsFrom]
  simpa using Glyph.text_ofChars line

end TwinBuild.Text
