import TwinBuild.Text.Blank
import TwinBuild.Text.Pattern.Fault

/-!
# Reading characters of a pattern

A reader goes through a written pattern character by character and knows its position. Where a
pattern is written freely, blanks and comments are passed over; a comment begins with a number sign
and ends with the line.

Main statement: `length_skipFreely`, passing over never goes back.
-/

namespace TwinBuild.Text.Pattern

/-- Where a reader is and what is still to be read. -/
structure Cursor where
  here : Position := {}
  rest : List Char
deriving DecidableEq, Repr

/-- A computation that reads a pattern. -/
abbrev ReadM := StateT Cursor (Except PatternFault)

/-- Pass over blanks and comments. -/
def skipFreely (isComment : Bool) (here : Position) : List Char → Cursor
  | [] => ⟨here, []⟩
  | c :: rest =>
    if isComment then skipFreely (c != '\n') (here.after c) rest
    else if isBlank c then skipFreely false (here.after c) rest
    else if c = '#' then skipFreely true (here.after c) rest
    else ⟨here, c :: rest⟩

theorem length_skipFreely (isComment : Bool) (here : Position) (text : List Char) :
    (skipFreely isComment here text).rest.length ≤ text.length := by
  induction text generalizing isComment here with
  | nil => simp [skipFreely]
  | cons c rest ih =>
    simp only [skipFreely]
    split
    · exact Nat.le_succ_of_le (ih _ _)
    · split
      · exact Nat.le_succ_of_le (ih _ _)
      · split
        · exact Nat.le_succ_of_le (ih _ _)
        · simp

namespace ReadM

/-- Where the reader is. -/
def here : ReadM Position := return (← get).here

/-- The character to be read next. -/
def char? : ReadM (Option Char) := return (← get).rest.head?

/-- Whether everything has been read. -/
def isDone : ReadM Bool := return (← get).rest.isEmpty

/-- How many characters are still to be read. -/
def remaining : ReadM Nat := return (← get).rest.length

/-- Read one character. -/
def step : ReadM Unit := modify fun c =>
  match c.rest with
  | [] => c
  | d :: rest => ⟨c.here.after d, rest⟩

/-- Pass over blanks and comments if the pattern is written freely. -/
def skip (freely : Bool) : ReadM Unit := modify fun c =>
  if freely then skipFreely false c.here c.rest else c

/-- Read one character and pass over what may follow. -/
def stepOver (freely : Bool) : ReadM Unit := do
  step
  skip freely

/-- The empty stretch where the reader is. -/
def emptySpan : ReadM Span := return ⟨← here, ← here⟩

/-- The stretch of the next character. -/
def charSpan : ReadM Span := do
  let c ← get
  return ⟨c.here, (c.rest.head?.map c.here.after).getD c.here⟩

/-- The stretch from a position to where the reader is. -/
def spanFrom (start : Position) : ReadM Span := return ⟨start, ← here⟩

/-- Fail with a fault in a stretch. -/
def fail {α : Type} (kind : FaultKind) (span : Span) : ReadM α := throw ⟨kind, span⟩

/-- Read a text if it comes next. -/
def take? (text : String) : ReadM Bool := do
  if text.toList.isPrefixOf (← get).rest then
    text.toList.forM fun _ => step
    return true
  return false

/-- Read characters as long as they are wanted, at most `fuel` of them. -/
def takeWhileFrom (freely : Bool) (wanted : Char → Bool) : Nat → ReadM (List Char)
  | 0 => return []
  | fuel + 1 => do
    match ← char? with
    | some c =>
      if wanted c then
        stepOver freely
        return c :: (← takeWhileFrom freely wanted fuel)
      else return []
    | none => return []

/-- Read characters as long as they are wanted. -/
def takeWhile (freely : Bool) (wanted : Char → Bool) : ReadM (List Char) := do
  takeWhileFrom freely wanted (← remaining)

end ReadM

end TwinBuild.Text.Pattern
