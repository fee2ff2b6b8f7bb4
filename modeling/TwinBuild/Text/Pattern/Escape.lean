import TwinBuild.Text.Pattern.Cursor
import TwinBuild.Text.Pattern.Written

/-!
# Escapes

What a backslash begins: a sign that stands for itself, a control, a character by its number, a class
or a property of characters, or an anchor.
-/

namespace TwinBuild.Text.Pattern

open ReadM

/-- Whether a backslash before a character only takes its meaning away: signs, but not those that
stand for the edges of words. -/
def isEscapable (c : Char) : Bool := c.toNat < 0x80 && !c.isAlphanum && c != '<' && c != '>'

/-- The control that a letter after a backslash stands for. -/
def control? : Char → Option Char
  | 'a' => some '\x07'
  | 'f' => some '\x0c'
  | 't' => some '\t'
  | 'n' => some '\n'
  | 'r' => some '\r'
  | 'v' => some '\x0b'
  | _ => none

/-- The class that a letter after a backslash stands for, and whether it is negated. -/
def shortClass? : Char → Option (AsciiClass × Bool)
  | 'd' => some (.digit, false)
  | 's' => some (.space, false)
  | 'w' => some (.word, false)
  | 'D' => some (.digit, true)
  | 'S' => some (.space, true)
  | 'W' => some (.word, true)
  | _ => none

/-- The anchor that a character after a backslash stands for. -/
def anchor? : Char → Option AnchorSign
  | 'A' => some .textStart
  | 'z' => some .textStop
  | 'b' => some (.word .either)
  | 'B' => some (.word .neither)
  | '<' => some (.word .start)
  | '>' => some (.word .stop)
  | _ => none

/-- The edges of words by name. -/
def wordEdges : List (String × WordEdge) := [
  ("start", .start), ("end", .stop), ("start-half", .startHalf), ("end-half", .stopHalf)]

/-- The digits of a character's number after each of the letters that announce it. -/
def numberLength? : Char → Option Nat
  | 'x' => some 2
  | 'u' => some 4
  | 'U' => some 8
  | _ => none

/-- The value of a hexadecimal digit. -/
def hexValue? (c : Char) : Option Nat :=
  if c.isDigit then some (c.toNat - 48)
  else if 'a' ≤ c && c ≤ 'f' then some (c.toNat - 87)
  else if 'A' ≤ c && c ≤ 'F' then some (c.toNat - 55)
  else none

/-- The character of a number in hexadecimal digits. -/
def ofDigits? (digits : List Char) : Option Char :=
  let number := digits.foldl (fun n c => n * 16 + (hexValue? c).getD 0) 0
  if number.isValidChar then some (Char.ofNat number) else none

/-- Read hexadecimal digits, `count` of them; blanks may stand between them where `freely` says so. -/
def readDigits (freely : Bool) (isFirst : Bool) : Nat → ReadM (List Char)
  | 0 => return []
  | count + 1 => do
    if !isFirst then
      stepOver freely
      if ← isDone then fail .escapeUnfinished (← emptySpan)
    match ← char? with
    | some c =>
      if (hexValue? c).isNone then fail .hexDigit (← charSpan)
      return c :: (← readDigits freely false count)
    | none => fail .escapeUnfinished (← emptySpan)

/-- Read a character's number in a fixed count of digits; the backslash is at `start`. -/
def readFixedNumber (freely : Bool) (start : Position) (count : Nat) : ReadM Written := do
  let first ← here
  let digits ← readDigits freely true count
  stepOver freely
  match ofDigits? digits with
  | some c => return .literal ⟨← spanFrom start, c, count == 2⟩
  | none => fail .hexTooLarge (← spanFrom first)

/-- Read a character's number between braces; the backslash is at `start`. -/
def readBracedNumber (freely : Bool) (start : Position) : ReadM Written := do
  let brace ← here
  let first := (← charSpan).stop
  stepOver freely
  let digits ← takeWhile freely fun c => (hexValue? c).isSome
  match ← char? with
  | none => fail .escapeUnfinished (← spanFrom brace)
  | some c => if c != '\x7d' then fail .hexDigit (← charSpan)
  let last ← here
  stepOver freely
  if digits.isEmpty then fail .hexEmpty (← spanFrom brace)
  match ofDigits? digits with
  | some c => return .literal ⟨← spanFrom start, c, false⟩
  | none => fail .hexTooLarge ⟨first, last⟩

/-- The property that is named between braces. -/
def PropertyName.ofText (text : List Char) : PropertyName :=
  if text.contains ':' || text.contains '=' then .valued else .plain text

/-- Read a property of characters; the backslash is at `start`. -/
def readProperty (freely : Bool) (start : Position) : ReadM Written := do
  stepOver freely
  match ← char? with
  | none => fail .escapeUnfinished (← emptySpan)
  | some '\x7b' =>
    stepOver freely
    let name ← takeWhile freely (· != '\x7d')
    if ← isDone then fail .escapeUnfinished (← emptySpan)
    step
    return .property (← spanFrom start) (.ofText name)
  | some c =>
    if c = '\\' then fail .property (← charSpan)
    stepOver freely
    return .property (← spanFrom start) (.plain [c])

/-- Read the name of an edge of words between braces, unless a count is there; what the name belongs to
is at `start`. -/
def readWordEdge? (freely : Bool) (start : Position) : ReadM (Option WordEdge) := do
  let isNameLetter (c : Char) : Bool := c.isAlpha || c = '-'
  let before ← get
  stepOver freely
  match ← char? with
  | none => fail .wordEdgeUnfinished (← spanFrom start)
  | some c =>
    if !isNameLetter c then
      set before
      return none
    let first ← here
    let name ← takeWhile freely isNameLetter
    if (← char?) != some '\x7d' then fail .wordEdgeUnclosed (← spanFrom before.here)
    let last ← here
    step
    match wordEdges.lookup (String.ofList name) with
    | some edge => return some edge
    | none => fail .wordEdgeUnknown ⟨first, last⟩

/-- Read what a backslash begins. -/
def readEscape (freely : Bool) : ReadM Written := do
  let start ← here
  step
  match ← char? with
  | none => fail .escapeUnfinished (← spanFrom start)
  | some c =>
    if c.isDigit then fail .backReference ⟨start, (← charSpan).stop⟩
    if let some count := numberLength? c then
      stepOver freely
      match ← char? with
      | none => fail .escapeUnfinished (← emptySpan)
      | some '\x7b' => readBracedNumber freely start
      | some _ => readFixedNumber freely start count
    else if c = 'p' || c = 'P' then readProperty freely start
    else
      step
      let span ← spanFrom start
      if let some (k, negated) := shortClass? c then return .short span k negated
      else if isEscapable c then return .literal ⟨span, c, false⟩
      else if let some control := control? c then return .literal ⟨span, control, false⟩
      else match anchor? c with
        | some a =>
          if c = 'b' && (← char?) = some '\x7b' then
            match ← readWordEdge? freely start with
            | some edge => return .anchor (← spanFrom start) (.word edge)
            | none => return .anchor span a
          else return .anchor span a
        | none => fail .escapeUnknown span

end TwinBuild.Text.Pattern
