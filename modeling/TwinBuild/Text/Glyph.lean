/-!
# Glyphs

What a terminal makes of a text: characters that it shows, and sequences that begin with an escape
and only move the cursor or change colours.

Main statement: `text_ofChars`, no character is lost.
-/

namespace TwinBuild.Text

/-- A part of a text as a terminal takes it. -/
inductive Glyph where
  | shown (c : Char)
  | control (text : List Char)
deriving DecidableEq, Repr

namespace Glyph

/-- The characters of a glyph. -/
def text : Glyph → List Char
  | shown c => [c]
  | control text => text

/-- The character that is shown. -/
def char? : Glyph → Option Char
  | shown c => some c
  | control _ => none

/-- The character that begins a control sequence. -/
def escape : Char := '\x1b'

/-- Where a reader of glyphs stands. -/
inductive Position where
  /-- Outside a control sequence. -/
  | outside
  /-- After an escape. -/
  | introduced
  /-- Among the parameters of a sequence that a letter or sign ends. -/
  | parameters
  /-- In a command that a bell, or an escape and a backslash, ends; `last` came last. -/
  | command (last : Char)
deriving DecidableEq, Repr

/-- The glyphs of a text; `read` is the reversed beginning of the sequence the reader is in. -/
def ofCharsFrom : Position → List Char → List Char → List Glyph
  | .outside, _, [] => []
  | _, read, [] => [.control read.reverse]
  | .outside, read, c :: rest =>
    if c = escape then ofCharsFrom .introduced [c] rest
    else .shown c :: ofCharsFrom .outside read rest
  | .introduced, read, c :: rest =>
    if c = '[' then ofCharsFrom .parameters (c :: read) rest
    else if c = ']' then ofCharsFrom (.command c) (c :: read) rest
    else .control (c :: read).reverse :: ofCharsFrom .outside [] rest
  | .parameters, read, c :: rest =>
    if '@' ≤ c && c ≤ '~' then .control (c :: read).reverse :: ofCharsFrom .outside [] rest
    else ofCharsFrom .parameters (c :: read) rest
  | .command last, read, c :: rest =>
    if c = '\x07' || (c = '\\' && last = escape) then
      .control (c :: read).reverse :: ofCharsFrom .outside [] rest
    else ofCharsFrom (.command c) (c :: read) rest

/-- The glyphs of a text. -/
def ofChars (text : List Char) : List Glyph := ofCharsFrom .outside [] text

theorem text_ofCharsFrom (text : List Char) :
    (∀ read, (ofCharsFrom .outside read text).flatMap Glyph.text = text) ∧
      ∀ p read, p ≠ .outside →
        (ofCharsFrom p read text).flatMap Glyph.text = read.reverse ++ text := by
  induction text with
  | nil =>
    refine ⟨fun read => rfl, fun p read hp => ?_⟩
    cases p with
    | outside => exact absurd rfl hp
    | _ => simp [ofCharsFrom, Glyph.text]
  | cons c rest ih =>
    obtain ⟨outside, inside⟩ := ih
    refine ⟨fun read => ?_, fun p read hp => ?_⟩
    · simp only [ofCharsFrom]
      split
      · rw [inside _ _ (by simp)]; simp
      · simp [Glyph.text, outside]
    · cases p with
      | outside => exact absurd rfl hp
      | introduced =>
        simp only [ofCharsFrom]
        split
        · rw [inside _ _ (by simp)]; simp
        · split
          · rw [inside _ _ (by simp)]; simp
          · simp [Glyph.text, outside]
      | parameters =>
        simp only [ofCharsFrom]
        split
        · simp [Glyph.text, outside]
        · rw [inside _ _ (by simp)]; simp
      | command last =>
        simp only [ofCharsFrom]
        split
        · simp [Glyph.text, outside]
        · rw [inside _ _ (by simp)]; simp

/-- The glyphs of a text hold its characters in order. -/
theorem text_ofChars (text : List Char) : (ofChars text).flatMap Glyph.text = text :=
  (text_ofCharsFrom text).1 []

end Glyph

end TwinBuild.Text
