import TwinBuild.Text.Alphabetic
import TwinBuild.Text.Pattern.Bracketed

/-!
# Reading patterns

A pattern is read part by part into the sequence and the choices of the innermost open group. A
repetition takes the part before it; a closing parenthesis makes a part of the group. How deep the
parts are nested is looked at when everything has been read.
-/

namespace TwinBuild.Text.Pattern

open ReadM

/-- The choices of a group so far. -/
structure Level where
  /-- Where the first choice begins. -/
  first : Position
  /-- The finished choices, the last one first. -/
  choices : List Written := []
  /-- Where the present choice begins. -/
  start : Position
  /-- The parts of the present choice, the last one first. -/
  parts : List Written := []

namespace Level

/-- The choices of a group that begins here. -/
def beginning (p : Position) : Level := { first := p, start := p }

/-- A level with one more part. -/
def push (l : Level) (w : Written) : Level := { l with parts := w :: l.parts }

/-- The present choice, which ends at `stop`. -/
def present (l : Level) (stop : Position) : Written :=
  match l.parts.reverse with
  | [] => .empty ⟨l.start, stop⟩
  | [part] => part
  | parts => .sequence ⟨l.start, stop⟩ parts

/-- All choices, of which the present one ends at `stop`. -/
def whole (l : Level) (stop : Position) : Written :=
  if l.choices.isEmpty then l.present stop
  else .choice ⟨l.first, stop⟩ (l.present stop :: l.choices).reverse

end Level

/-- A group whose closing parenthesis has not come yet. -/
structure OpenGroup where
  /-- Its opening parenthesis. -/
  opening : Span
  /-- The flags of a group that is not remembered. -/
  own : Option (List FlagItem)
  /-- The choices around it. -/
  outer : Level
  /-- Whether blanks are passed over around it. -/
  freely : Bool

/-- What has been read of a pattern. -/
structure Reading where
  freely : Bool := false
  level : Level
  /-- The open groups, the innermost first. -/
  groups : List OpenGroup := []
  /-- The names of groups, and where they stand. -/
  names : List (List Char × Span) := []

/-! ## Groups -/

/-- Whether a character may stand in the name of a group. -/
def isNameCharacter (isFirst : Bool) (c : Char) : Bool :=
  c = '_' || (if isFirst then isAlphabetic c else isAlphanumeric c || ['.', '[', ']'].contains c)

/-- Read the characters of a group's name up to its end. -/
def readNameFrom (isFirst : Bool) : Nat → ReadM (List Char)
  | 0 => return []
  | fuel + 1 => do
    match ← char? with
    | none => return []
    | some '>' => return []
    | some c =>
      if !isNameCharacter isFirst c then fail .nameCharacter (← charSpan)
      step
      return c :: (← readNameFrom false fuel)

/-- Read the name of a group, which must be a new one. -/
def readName (names : List (List Char × Span)) : ReadM (List Char × Span) := do
  let start ← here
  let name ← readNameFrom true (← remaining)
  let span ← spanFrom start
  if ← isDone then fail .nameUnclosed (← emptySpan)
  step
  if name.isEmpty then fail .nameEmpty span
  match names.lookup name with
  | some other => fail (.nameTwice other) span
  | none => return (name, span)

/-- Read flags up to the sign that ends them; `done` holds those read, the last one first. -/
def readFlagsFrom (done : List FlagItem) : Nat → ReadM (List FlagItem)
  | 0 => return done.reverse
  | fuel + 1 => do
    let span ← charSpan
    match ← char? with
    | none => fail .flagUnfinished (← emptySpan)
    | some c =>
      if c = ':' || c = ')' then
        match done with
        | ⟨sign, none⟩ :: _ => fail .flagDangling sign
        | _ => return done.reverse
      let flag ← if c = '-' then pure none
        else match Flag.ofLetter? c with
          | some flag => pure (some flag)
          | none => fail .flagUnknown span
      if let some item := done.find? fun item => item.flag == flag then
        fail (if flag.isNone then .flagNegatedTwice item.span else .flagTwice item.span) span
      step
      if ← isDone then fail .flagUnfinished (← emptySpan)
      readFlagsFrom (⟨span, flag⟩ :: done) fuel

/-- Whether a group looks ahead or behind, which is not supported. -/
def readLookAround : ReadM Bool := do
  if ← take? "?=" then return true
  if ← take? "?!" then return true
  if ← take? "?<=" then return true
  take? "?<!"

/-- The reading after a group has been opened. -/
def Reading.enter (r : Reading) (opening : Span) (own : Option (List FlagItem))
    (here : Position) : Reading :=
  { r with
    freely := (own.bind Flag.freely.stateIn).getD r.freely
    level := .beginning here
    groups := ⟨opening, own, r.level, r.freely⟩ :: r.groups }

/-- Read what an opening parenthesis begins: a group, or flags for the rest of the one around. -/
def Reading.openGroup (r : Reading) : ReadM Reading := do
  let opening ← charSpan
  step
  skip r.freely
  if ← readLookAround then fail .lookAround (← spanFrom opening.start)
  let inner ← emptySpan
  let isNamed ← if ← take? "?P<" then pure true else take? "?<"
  if isNamed then
    let name ← readName r.names
    return { r with names := name :: r.names }.enter opening none (← here)
  else if ← take? "?" then
    if ← isDone then fail .groupUnclosed opening
    let flags ← readFlagsFrom [] (← remaining)
    let isAlone := (← char?) == some ')'
    step
    if !isAlone then return r.enter opening (some flags) (← here)
    if flags.isEmpty then fail .nothingRepeated inner
    return { r with
      freely := (Flag.freely.stateIn flags).getD r.freely
      level := r.level.push (.flags (← spanFrom opening.start) flags) }
  else return r.enter opening none (← here)

/-- Read a closing parenthesis. -/
def Reading.closeGroup (r : Reading) : ReadM Reading := do
  match r.groups with
  | [] => fail .groupUnopened (← charSpan)
  | group :: groups =>
    let inner := r.level.whole (← here)
    step
    let part := Written.group (← spanFrom group.opening.start) group.own inner
    return { r with freely := group.freely, level := group.outer.push part, groups }

/-- Read a bar between choices. -/
def Reading.nextChoice (r : Reading) : ReadM Reading := do
  let choice := r.level.present (← here)
  step
  let level := { r.level with
    choices := choice :: r.level.choices
    start := ← here
    parts := [] }
  return { r with level }

/-! ## Repetition -/

/-- The part that a repetition takes, and the level without it. -/
def Reading.repeatable (r : Reading) : ReadM (Written × Level) := do
  match r.level.parts with
  | part :: parts =>
    if part.isRepeatable then return (part, { r.level with parts })
    else fail .nothingRepeated (← emptySpan)
  | [] => fail .nothingRepeated (← emptySpan)

/-- The reading with a part that is repeated. -/
def Reading.repeated (r : Reading) (part : Written) (level : Level) (low : Nat)
    (high : Option Nat) : ReadM Reading := do
  let span ← spanFrom part.span.start
  return { r with level := level.push (.repeated span low high part) }

/-- Read a sign of repetition, perhaps with a question mark for the shortest. -/
def Reading.sign (r : Reading) (low : Nat) (high : Option Nat) : ReadM Reading := do
  let (part, level) ← r.repeatable
  step
  if (← char?) = some '?' then step
  r.repeated part level low high

/-- The greatest count. -/
def maxCount : Nat := 0xFFFFFFFF

/-- Read a count, or find the fault in it: blanks may stand around it. -/
def readCount (freely : Bool) : ReadM (Except PatternFault Nat) := do
  let _ ← ReadM.takeWhile false isBlank
  let start ← here
  let digits ← ReadM.takeWhile freely Char.isDigit
  let span ← spanFrom start
  let _ ← ReadM.takeWhile freely isBlank
  let count := digits.foldl (fun n c => n * 10 + (c.toNat - 48)) 0
  if digits.isEmpty then return .error ⟨.countEmpty, span⟩
  else if maxCount < count then return .error ⟨.countTooLarge, span⟩
  else return .ok count

/-- The bounds between braces; the opening brace is at `start`. -/
def readBounds (freely : Bool) (start : Position) : ReadM (Nat × Option Nat) := do
  stepOver freely
  if ← isDone then fail .countUnclosed (← spanFrom start)
  let low ← readCount freely
  match ← char? with
  | none => fail .countUnclosed (← spanFrom start)
  | some ',' =>
    stepOver freely
    if ← isDone then fail .countUnclosed (← spanFrom start)
    if (← char?) = some '\x7d' then return (← low, none)
    let low ← low
    return (low, some (← (← readCount freely)))
  | some _ =>
    let low ← low
    return (low, some low)

/-- Read a repetition between braces. -/
def Reading.counted (r : Reading) : ReadM Reading := do
  let start ← here
  let (part, level) ← r.repeatable
  let (low, high) ← readBounds r.freely start
  if (← char?) != some '\x7d' then fail .countUnclosed (← spanFrom start)
  stepOver r.freely
  if (← char?) = some '?' then step
  if high.any (· < low) then fail .countRange (← spanFrom start)
  r.repeated part level low high

/-! ## Whole patterns -/

/-- Read a part that is no group, class or repetition. -/
def readPart (freely : Bool) (c : Char) : ReadM Written := do
  let span ← charSpan
  match c with
  | '\\' => readEscape freely
  | '.' => step; return .dot span
  | '^' => step; return .anchor span .lineStart
  | '$' => step; return .anchor span .lineStop
  | c => step; return .literal ⟨span, c, false⟩

/-- Read what a character begins. -/
def Reading.next (r : Reading) (c : Char) : ReadM Reading :=
  match c with
  | '(' => r.openGroup
  | ')' => r.closeGroup
  | '|' => r.nextChoice
  | '[' => return { r with level := r.level.push (← readBracketed r.freely) }
  | '?' => r.sign 0 (some 1)
  | '*' => r.sign 0 none
  | '+' => r.sign 1 none
  | '\x7b' => r.counted
  | c => return { r with level := r.level.push (← readPart r.freely c) }

/-- Read a pattern to its end. -/
def Reading.finish : Nat → Reading → ReadM Written
  | 0, r => return r.level.whole (← here)
  | fuel + 1, r => do
    skip r.freely
    match ← char? with
    | some c => finish fuel (← r.next c)
    | none =>
      match r.groups with
      | [] => return r.level.whole (← here)
      | group :: _ => fail .groupUnclosed group.opening

/-- The pattern that a text writes. -/
def Written.ofText (text : List Char) : Except PatternFault Written := do
  let reading := Reading.finish (text.length + 1) { level := .beginning {} }
  let (written, _) ← reading.run { rest := text }
  match written.tooDeep? 0 with
  | some span => throw ⟨.nestedTooDeep, span⟩
  | none => return written

end TwinBuild.Text.Pattern
