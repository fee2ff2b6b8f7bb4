import TwinBuild.Text.Pattern

/-!
# Drafts of patterns

A pattern together with what the machine for it would weigh, in octets of memory: patterns whose
machine is too heavy are refused, so counted repetitions are weighed without being written out. There
is a machine that reads texts forwards and one that reads them backwards, and each of the two
counts.
-/

namespace TwinBuild.Text.Pattern

/-- What the two machines for a pattern weigh. -/
structure Weight where
  forward : Nat
  backward : Nat
deriving DecidableEq, Repr

namespace Weight

/-- The same weight for both machines. -/
def both (n : Nat) : Weight := ⟨n, n⟩

/-- The weight of two machines together. -/
def add (v w : Weight) : Weight := ⟨v.forward + w.forward, v.backward + w.backward⟩

/-- The weight of a machine some number of times. -/
def scale (n : Nat) (w : Weight) : Weight := ⟨n * w.forward, n * w.backward⟩

/-- The weight of one state. -/
def state : Nat := 32

/-- The weight of a step to another state for a range of octets. -/
def step : Nat := 8

/-- The weight of a way that may be tried instead. -/
def way : Nat := 4

/-- The first and the last characters of two, three and four octets, and what a range among them adds
to either machine. -/
def wideRanges : List ((Nat × Nat) × Weight) := [
  ((0x80, 0x7FF), ⟨48, 100⟩), ((0x800, 0xFFFF), ⟨152, 380⟩), ((0x10000, 0x10FFFF), ⟨144, 440⟩)]

/-- The weight of a range of characters. -/
def ofRange (low high : Nat) : Weight :=
  wideRanges.foldl
    (fun w r => if low ≤ r.1.2 && r.1.1 ≤ high then w.add r.2 else w)
    (both (if low < 0x80 then step else 0))

/-- The octets of a character. -/
def octets (n : Nat) : Nat := if n < 0x80 then 1 else if n < 0x800 then 2 else if n < 0x10000 then 3 else 4

/-- The weight of a set of characters. -/
def ofSet (s : CharSet) : Weight :=
  match s.single? with
  | some n => both (octets n * state)
  | none => s.ranges.foldl (fun w r => w.add (ofRange r.1 r.2)) (both (2 * state))

/-- The weight of a choice of `count` patterns that weigh `w` together. -/
def choice (count : Nat) (w : Weight) : Weight := w.add (both (2 * state + count * way))

/-- The weight of what is done at most once more. -/
def optional (w : Weight) : Weight := w.add (both (state + 2 * way))

/-- The weight of a repetition. -/
def times (w : Weight) (low : Nat) : Option Nat → Weight
  | none => (w.scale (max low 1)).add (both (state + 2 * way))
  | some high =>
    if low = high then w.scale low
    else ((w.scale low).add (w.optional.scale (high - low))).add (both state)

end Weight

/-- A pattern with what else is known of it. -/
structure Draft where
  pattern : Pattern
  weight : Weight
  /-- Whether it matches the empty text alone. -/
  isWidthless : Bool := false
  /-- The set, if the pattern is one character of a set. -/
  set? : Option CharSet := none
deriving DecidableEq, Repr

namespace Draft

/-- The empty text. -/
def empty : Draft := { pattern := .empty, weight := .both Weight.state, isWidthless := true }

/-- One character of a set. -/
def char (s : CharSet) : Draft := { pattern := .char s, weight := .ofSet s, set? := some s }

/-- The empty text where an anchor holds. -/
def anchor (a : Anchor) : Draft :=
  { pattern := .anchor a, weight := .both Weight.state, isWidthless := true }

/-- A pattern whose match is remembered. -/
def remembered (d : Draft) : Draft :=
  { pattern := d.pattern
    weight := d.weight.add ⟨2 * Weight.state, 0⟩
    isWidthless := d.isWidthless }

/-- Two patterns one after the other. -/
def seq (d e : Draft) : Draft :=
  { pattern := .seq d.pattern e.pattern
    weight := d.weight.add e.weight
    isWidthless := d.isWidthless && e.isWidthless }

/-- Patterns one after the other. -/
def sequence : List Draft → Draft
  | [] => empty
  | [d] => d
  | d :: rest => d.seq (sequence rest)

/-- The pattern of a choice. -/
def choicePattern : List Draft → Pattern
  | [] => .char {}
  | [d] => d.pattern
  | d :: rest => .alt d.pattern (choicePattern rest)

/-- A choice of patterns; where each is one character of a set, so is the choice. -/
def choice (ds : List Draft) : Draft :=
  match ds.mapM Draft.set? with
  | some sets => char (sets.foldl CharSet.union {})
  | none =>
    { pattern := choicePattern ds
      weight := .choice ds.length (ds.foldl (fun w d => w.add d.weight) (.both 0))
      isWidthless := ds.all Draft.isWidthless }

/-- A repetition. What matches the empty text alone matches nothing else the second time. -/
def times (d : Draft) (low : Nat) (high : Option Nat) : Draft :=
  let low := if d.isWidthless then min low 1 else low
  let high := if d.isWidthless then some (min (high.getD 1) 1) else high
  if high = some 0 then empty
  else if low = 1 && high = some 1 then d
  else
    { pattern := .times d.pattern low high
      weight := d.weight.times low high
      isWidthless := d.isWidthless }

/-- The weight of what every machine has besides its pattern: where it begins, what it passes over
before, and where it ends. -/
def frame : Nat := 8 * Weight.state

/-- The greatest weight of a machine. -/
def maxWeight : Nat := 10485760

/-- Whether a machine is too heavy. -/
def isTooHeavy (d : Draft) : Bool :=
  maxWeight < max d.weight.forward d.weight.backward + frame

end Draft

/-- Whether a pattern asks for the edge of a word of any alphabet. -/
def asksAnyWord : Pattern → Bool
  | empty => false
  | char _ => false
  | anchor a => a = .anyWord
  | seq p q => p.asksAnyWord || q.asksAnyWord
  | alt p q => p.asksAnyWord || q.asksAnyWord
  | times p _ _ => p.asksAnyWord

end TwinBuild.Text.Pattern
