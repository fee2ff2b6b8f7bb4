import TwinBuild.Text.Pattern.Escape

/-!
# Classes between brackets

A class lists characters, ranges and other classes, may be negated by a circumflex after its bracket,
and may be combined with what follows two ampersands, hyphens or tildes. A hyphen or a closing
bracket right after the opening stands for itself.
-/

namespace TwinBuild.Text.Pattern

open ReadM

/-- A class whose closing bracket has not come yet. -/
structure OpenClass where
  /-- What belongs to its opening. -/
  opening : Span
  negated : Bool
  /-- The items since the last sign that combines classes, the last one first. -/
  items : List ClassSet := []
  /-- The stretch of these items. -/
  span : Span
  /-- What comes before that sign, and the sign. -/
  left : Option (ClassOperation × ClassSet) := none

namespace OpenClass

/-- A class with one more item. -/
def push (k : OpenClass) (item : ClassSet) : OpenClass :=
  { k with
    items := item :: k.items
    span := ⟨if k.items.isEmpty then item.span.start else k.span.start, item.span.stop⟩ }

/-- The items since the last sign as one. -/
def listed (k : OpenClass) : ClassSet :=
  match k.items.reverse with
  | [] => .empty k.span
  | [item] => item
  | items => .union k.span items

/-- All that has come so far as one. -/
def whole (k : OpenClass) : ClassSet :=
  match k.left with
  | none => k.listed
  | some (op, left) => .combined ⟨left.span.start, k.listed.span.stop⟩ op left k.listed

end OpenClass

/-- Read the hyphens that stand for themselves after the opening at `start`. -/
def readHyphens (freely : Bool) (start : Position) : Nat → OpenClass → ReadM OpenClass
  | 0, k => return k
  | fuel + 1, k => do
    if (← char?) = some '-' then
      let item := ClassSet.literal ⟨← charSpan, '-', false⟩
      stepOver freely
      if ← isDone then fail .classUnclosed ⟨start, start⟩
      readHyphens freely start fuel (k.push item)
    else return k

/-- Read the opening of a class. -/
def readOpening (freely : Bool) : ReadM OpenClass := do
  let start ← here
  stepOver freely
  if ← isDone then fail .classUnclosed (← spanFrom start)
  let negated := (← char?) == some '^'
  if negated then
    stepOver freely
    if ← isDone then fail .classUnclosed (← spanFrom start)
  let bare : OpenClass := { opening := ⟨start, start⟩, negated, span := ← emptySpan }
  let k ← readHyphens freely start (← remaining) bare
  if k.items.isEmpty && (← char?) = some ']' then
    let item := ClassSet.literal ⟨← charSpan, ']', false⟩
    stepOver freely
    if ← isDone then fail .classUnclosed (← spanFrom start)
    return { k.push item with opening := ← spanFrom start }
  return { k with opening := ← spanFrom start }

/-- A class named between colons at the beginning of a text: whether it is negated, the class, and its
length. -/
def namedClass? : List Char → Option (Bool × AsciiClass × Nat)
  | '[' :: ':' :: body =>
    let negated := body.head? == some '^'
    let text := if negated then body.drop 1 else body
    let name := text.takeWhile (· != ':')
    if [':', ']'].isPrefixOf (text.drop name.length) then
      (AsciiClass.ofName? name).map fun k => (negated, k, 4 + negated.toNat + name.length)
    else none
  | _ => none

/-- Read an item of a class that is not a class between brackets. -/
def readItem (freely : Bool) : ReadM Written := do
  match ← char? with
  | some '\\' => readEscape freely
  | some c =>
    let span ← charSpan
    step
    return .literal ⟨span, c, false⟩
  | none => return .empty (← emptySpan)

/-- The item of a class that an escape writes. -/
def itemOf (w : Written) : ReadM ClassSet :=
  match w with
  | .literal l => return .literal l
  | .short span k negated => return .short span k negated
  | .property span name => return .property span name
  | _ => fail .classEscape w.span

/-- The end of a range that an escape writes. -/
def boundOf (w : Written) : ReadM Literal :=
  match w with
  | .literal l => return l
  | _ => fail .classRangeBound w.span

/-- The first character of a text that is no blank; one number sign before it is passed over. -/
def pastBlanks? (isComment : Bool) : List Char → Option Char
  | [] => none
  | c :: rest =>
    if isBlank c then pastBlanks? isComment rest
    else if c = '#' && !isComment then pastBlanks? true rest
    else some c

/-- The character after the next one. -/
def second? (freely : Bool) : ReadM (Option Char) := do
  let text := (← get).rest.drop 1
  return if freely then (pastBlanks? false text).or text.head? else text.head?

/-- Read an item of a class, or a range. The classes around it are open since `opening`. -/
def readRange (freely : Bool) (opening : Span) : ReadM ClassSet := do
  let first ← readItem freely
  skip freely
  if ← isDone then fail .classUnclosed opening
  let next ← second? freely
  if (← char?) != some '-' || next = some ']' || next = some '-' then itemOf first
  else
    stepOver freely
    if ← isDone then fail .classUnclosed opening
    let last ← readItem freely
    let low ← boundOf first
    let high ← boundOf last
    if high.char < low.char then
      fail .classRange ⟨first.span.start, last.span.stop⟩
    return .range low high

/-- The sign that combines classes, if it comes next. -/
def readOperation? : ReadM (Option ClassOperation) := do
  if ← take? "&&" then return some .inter
  if ← take? "--" then return some .diff
  if ← take? "~~" then return some .symmDiff
  return none

/-- Read a class to its end, within other open classes, the innermost first. -/
def readClassFrom (freely : Bool) : Nat → OpenClass → List OpenClass → ReadM Written
  | 0, k, _ => fail .classUnclosed k.opening
  | fuel + 1, k, outer => do
    skip freely
    match ← char? with
    | none => fail .classUnclosed k.opening
    | some '[' =>
      match namedClass? (← get).rest with
      | some (negated, named, length) =>
        let start ← here
        (List.range length).forM fun _ => step
        readClassFrom freely fuel (k.push (.named (← spanFrom start) named negated)) outer
      | none =>
        let inner ← readOpening freely
        readClassFrom freely fuel inner (k :: outer)
    | some ']' =>
      step
      let span ← spanFrom k.opening.start
      match outer with
      | [] => return .bracketed span k.negated k.whole
      | around :: outer =>
        readClassFrom freely fuel (around.push (.bracketed span k.negated k.whole)) outer
    | some _ =>
      match ← readOperation? with
      | some op =>
        let next := { k with items := [], span := ← emptySpan, left := some (op, k.whole) }
        readClassFrom freely fuel next outer
      | none =>
        let item ← readRange freely k.opening
        readClassFrom freely fuel (k.push item) outer

/-- Read a class between brackets. -/
def readBracketed (freely : Bool) : ReadM Written := do
  let fuel ← remaining
  let k ← readOpening freely
  readClassFrom freely fuel k []

end TwinBuild.Text.Pattern
