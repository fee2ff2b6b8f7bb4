import TwinBuild.Text.CharSet

/-!
# Patterns

A pattern describes texts by sets of characters, sequence, choice and repetition, and by anchors that
hold between two characters.

A text is searched for a pattern with sets of places, a place being the number of characters before
it: a pattern takes every place to those that a match from there can end at, and it occurs in the
text if some place can be reached at all. A set of places is a number whose bits are the places, so
that all places are followed at once and no match is tried twice.

Main statements: `repeated_eq` and `widened_eq`, stopping early where nothing changes any more gives
what all rounds would.
-/

namespace TwinBuild.Text

/-- What an anchor asks for at the edge of a word. -/
inductive WordEdge where
  /-- A word begins or ends here. -/
  | either
  /-- No word begins or ends here. -/
  | neither
  | start
  | stop
  /-- No word goes on from before. -/
  | startHalf
  /-- No word goes on from here. -/
  | stopHalf
deriving DecidableEq, Repr

/-- What must hold between two characters. -/
inductive Anchor where
  | textStart
  | textStop
  | lineStart
  | lineStop
  /-- The start of a line that a carriage return may end. -/
  | returnStart
  /-- The end of a line that a carriage return may end. -/
  | returnStop
  /-- An edge of a word of ASCII letters, digits and underscores. -/
  | word (edge : WordEdge)
  /-- An edge of a word of any alphabet: without tables of all letters it holds nowhere. -/
  | anyWord
deriving DecidableEq, Repr

/-- Whether a character is a part of ASCII words. -/
def isWordLetter (c : Char) : Bool := c.isAlphanum || c = '_'

/-- Whether an edge of a word is between two characters, or at an end of the text. -/
def WordEdge.holds (e : WordEdge) (before after : Option Char) : Bool :=
  let was := before.any isWordLetter
  let is := after.any isWordLetter
  match e with
  | either => was != is
  | neither => was == is
  | start => !was && is
  | stop => was && !is
  | startHalf => !was
  | stopHalf => !is

/-- Whether an anchor holds between two characters, or at an end of the text. -/
def Anchor.holds (a : Anchor) (before after : Option Char) : Bool :=
  match a with
  | textStart => before.isNone
  | textStop => after.isNone
  | lineStart => before.isNone || before = some '\n'
  | lineStop => after.isNone || after = some '\n'
  | returnStart =>
    before.isNone || before = some '\n' || (before = some '\r' && after != some '\n')
  | returnStop =>
    after.isNone || after = some '\r' || (after = some '\n' && before != some '\r')
  | word edge => edge.holds before after
  | anyWord => false

/-- A pattern. -/
inductive Pattern where
  /-- The empty text. -/
  | empty
  /-- One character of a set. -/
  | char (s : CharSet)
  /-- The empty text where an anchor holds. -/
  | anchor (a : Anchor)
  | seq (first second : Pattern)
  | alt (one other : Pattern)
  /-- At least `low` and, if there is a bound, at most `high` times. -/
  | times (p : Pattern) (low : Nat) (high : Option Nat)
deriving DecidableEq, Repr

namespace Pattern

/-- The places before the characters that `f` picks. -/
def placesOf (f : Char → Bool) : List Char → Nat
  | [] => 0
  | c :: rest => (f c).toNat + 2 * placesOf f rest

/-- The places where an anchor holds; `before` is the character before the text. -/
def placesAt (a : Anchor) (before : Option Char) : List Char → Nat
  | [] => (a.holds before none).toNat
  | c :: rest => (a.holds before (some c)).toNat + 2 * placesAt a (some c) rest

/-- How a pattern moves places along one text. -/
inductive Moves where
  /-- Stay at these places. -/
  | stay (places : Nat)
  /-- Go on from these places by one. -/
  | advance (places : Nat)
  | seq (first second : Moves)
  | alt (one other : Moves)
  /-- Move `low` times and then up to `more` times again. -/
  | times (m : Moves) (low more : Nat)

/-- Move places some number of times. -/
def repeated (f : Nat → Nat) : Nat → Nat → Nat
  | 0, places => places
  | k + 1, places =>
    let moved := f places
    if moved = places then places else repeated f k moved

/-- Add to places those that are reached from them by up to some number of moves. -/
def widened (f : Nat → Nat) : Nat → Nat → Nat
  | 0, places => places
  | k + 1, places =>
    let wider := places ||| f places
    if wider = places then places else widened f k wider

/-- The places that are reached from some places. -/
def Moves.reach : Moves → Nat → Nat
  | stay these, places => places &&& these
  | advance these, places => (places &&& these) <<< 1
  | seq first second, places => second.reach (first.reach places)
  | alt one other, places => one.reach places ||| other.reach places
  | times m low more, places => widened m.reach more (repeated m.reach low places)

/-- All places of a text. -/
def allPlaces (text : List Char) : Nat := (1 <<< (text.length + 1)) - 1

/-- How a pattern moves places along a text. Without a bound, as many rounds as there are places reach
all that can be reached. -/
def moves (text : List Char) : Pattern → Moves
  | empty => .stay (allPlaces text)
  | char s => .advance (placesOf s.has text)
  | anchor a => .stay (placesAt a none text)
  | seq first second => .seq (first.moves text) (second.moves text)
  | alt one other => .alt (one.moves text) (other.moves text)
  | times p low high =>
    .times (p.moves text) low ((high.map (· - low)).getD (text.length + 1))

/-- Whether a pattern matches somewhere in a text. -/
def occursIn (p : Pattern) (text : List Char) : Bool :=
  (p.moves text).reach (allPlaces text) != 0

/-- Moving places that a move leaves alone changes nothing, however often. -/
theorem repeated_eq (f : Nat → Nat) (k places : Nat) :
    repeated f k places = Nat.repeat f k places := by
  have hrest : ∀ k x, f x = x → Nat.repeat f k x = x := by
    intro k x hx
    induction k with
    | zero => rfl
    | succ k ih => simp [Nat.repeat, ih, hx]
  have hcomm : ∀ k x, Nat.repeat f k (f x) = f (Nat.repeat f k x) := by
    intro k x
    induction k with
    | zero => rfl
    | succ k ih => simp [Nat.repeat, ih]
  induction k generalizing places with
  | zero => rfl
  | succ k ih =>
    simp only [repeated]
    split
    · next h => simp [Nat.repeat, hrest k places h, h]
    · rw [ih, hcomm]; rfl

/-- Widening places is repeating the move that keeps them. -/
theorem widened_eq (f : Nat → Nat) (k places : Nat) :
    widened f k places = Nat.repeat (fun x => x ||| f x) k places := by
  have hsame : ∀ k x, widened f k x = repeated (fun x => x ||| f x) k x := by
    intro k
    induction k with
    | zero => intro x; rfl
    | succ k ih =>
      intro x
      simp only [widened, repeated]
      split
      · rfl
      · exact ih _
  rw [hsame, repeated_eq]

end Pattern

end TwinBuild.Text
