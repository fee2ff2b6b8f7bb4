import TwinBuild.Text.Pattern.Draft
import TwinBuild.Text.Pattern.Reading

/-!
# What written patterns mean

The pattern that a text writes, or what is wrong with the text. Flags hold from where they stand to
the end of the group around them. Without the flag for characters a pattern is about octets, and
only those that are characters of ASCII can be asked for. Classes of letters of all alphabets,
properties of characters, and letters that are alike in both cases are not known beyond ASCII.
-/

namespace TwinBuild.Text.Pattern

/-- The flags that hold at a place. -/
structure FlagState where
  ignoreCase : Bool := false
  multiLine : Bool := false
  dotAll : Bool := false
  returns : Bool := false
  unicode : Bool := true
deriving DecidableEq, Repr

namespace FlagState

/-- The flags that hold after some have been written. -/
def set (f : FlagState) (items : List FlagItem) : FlagState where
  ignoreCase := (Flag.ignoreCase.stateIn items).getD f.ignoreCase
  multiLine := (Flag.multiLine.stateIn items).getD f.multiLine
  dotAll := (Flag.dotAll.stateIn items).getD f.dotAll
  returns := (Flag.returns.stateIn items).getD f.returns
  unicode := (Flag.unicode.stateIn items).getD f.unicode

/-- The greatest number of what a class is made of. -/
def top (f : FlagState) : Nat := if f.unicode then 0x10FFFF else 0xFF

end FlagState

/-- The greatest number of an ASCII character. -/
def asciiTop : Nat := 0x7F

/-- Add the characters from `low` to `high` that are in a range, as characters from `other` on. -/
def addShifted (low high other : Nat) (r : Nat × Nat) (s : CharSet) : CharSet :=
  let a := max r.1 low
  let b := min r.2 high
  if a ≤ b then s.insert (a - low + other) (b - low + other) else s

/-- A set with the other case of each ASCII letter. -/
def inBothCases (s : CharSet) : CharSet :=
  s.ranges.foldl (fun t r => addShifted 0x61 0x7A 0x41 r (addShifted 0x41 0x5A 0x61 r t)) s

/-- The letters of a property's name that count: large and small ones are alike, and blanks, hyphens,
underscores and a leading `is` do not count. -/
def plainName (name : List Char) : List Char :=
  let lower := (name.filter fun c => c.toNat ≤ asciiTop).map Char.toLower
  let bare := if (name.take 2).map Char.toLower = ['i', 's'] then lower.drop 2 else lower
  bare.filter fun c => c != ' ' && c != '_' && c != '-'

/-- What is wrong with a property of characters: a few names could mean a value as well. -/
def PropertyName.fault : PropertyName → FaultKind
  | valued => .propertyUnknown
  | plain name =>
    if ["cf", "sc", "lc"].contains (String.ofList (plainName name)) then .propertyValueUnknown
    else .propertyUnknown

/-- What is wrong with a property where it stands. -/
def FlagState.propertyFault (f : FlagState) (name : PropertyName) : FaultKind :=
  if f.unicode then name.fault else .notInOctets

/-- Fail with a fault in a stretch. -/
def faultAt {α : Type} (kind : FaultKind) (span : Span) : Except PatternFault α :=
  .error ⟨kind, span⟩

/-- Require that a class of octets has only characters of ASCII. -/
def FlagState.asText (f : FlagState) (span : Span) (s : CharSet) : Except PatternFault CharSet :=
  if f.unicode || s.isWithin asciiTop then .ok s else faultAt .brokenText span

/-- A class in both cases if large and small letters are alike. -/
def FlagState.folded (f : FlagState) (span : Span) (s : CharSet) : Except PatternFault CharSet :=
  if !f.ignoreCase || s.isEmpty then .ok s
  else if f.unicode then faultAt .caseFolding span
  else .ok (inBothCases s)

/-- A class, perhaps negated. -/
def FlagState.negated (f : FlagState) (negated : Bool) (s : CharSet) : CharSet :=
  if negated then s.complement f.top else s

/-- The class of a short name. -/
def FlagState.shortSet (f : FlagState) (span : Span) (k : AsciiClass) (negated : Bool) :
    Except PatternFault CharSet :=
  if f.unicode then faultAt .wordClass span else f.asText span (f.negated negated k.set)

/-- The character of a literal in a class. -/
def FlagState.member (f : FlagState) (l : Literal) : Except PatternFault Nat :=
  if f.unicode || l.char.toNat ≤ asciiTop then .ok l.char.toNat
  else faultAt (if l.isOctet then .brokenText else .notInOctets) l.span

/-- The set of a literal outside classes. -/
def FlagState.literalSet (f : FlagState) (l : Literal) : Except PatternFault CharSet :=
  if f.unicode then f.folded l.span (.only l.char)
  else if l.char.toNat ≤ asciiTop then f.folded l.span (.only l.char)
  else if l.isOctet then faultAt .brokenText l.span
  else .ok (.only l.char)

/-- The set of a dot. -/
def FlagState.dotSet (f : FlagState) (span : Span) : Except PatternFault CharSet :=
  if !f.unicode then faultAt .brokenText span
  else if f.dotAll then .ok (CharSet.complement f.top {})
  else .ok (CharSet.complement f.top
    (.ofRanges (if f.returns then [(0xA, 0xA), (0xD, 0xD)] else [(0xA, 0xA)])))

/-- The anchor of a sign. -/
def FlagState.anchor (f : FlagState) : AnchorSign → Anchor
  | .lineStart =>
    if !f.multiLine then .textStart else if f.returns then .returnStart else .lineStart
  | .lineStop => if !f.multiLine then .textStop else if f.returns then .returnStop else .lineStop
  | .textStart => .textStart
  | .textStop => .textStop
  | .word edge => if f.unicode then .anyWord else .word edge

/-- Two classes combined. -/
def ClassOperation.apply (op : ClassOperation) (top : Nat) (s t : CharSet) : CharSet :=
  match op with
  | inter => s.inter top t
  | diff => s.diff top t
  | symmDiff => s.symmDiff top t

mutual

/-- The set that is written between brackets. -/
def ClassSet.meaning (f : FlagState) : ClassSet → Except PatternFault CharSet
  | .empty _ => .ok {}
  | .literal l => do
    let n ← f.member l
    return ⟨[(n, n)]⟩
  | .range first last => do return ⟨[(← f.member first, ← f.member last)]⟩
  | .named span k negated => do f.asText span (f.negated negated (← f.folded span k.set))
  | .short span k negated => f.shortSet span k negated
  | .property span name => faultAt (f.propertyFault name) span
  | .bracketed span negated set => do
    let s ← set.meaning f
    f.asText span (f.negated negated (← f.folded span s))
  | .union _ items => ClassSet.meanings f {} items
  | .combined _ op left right => do
    let s ← left.meaning f
    let t ← right.meaning f
    let t ← f.folded right.span t
    let s ← f.folded left.span s
    return op.apply f.top s t

/-- The union of a set and those that are written as items. -/
def ClassSet.meanings (f : FlagState) (s : CharSet) :
    List ClassSet → Except PatternFault CharSet
  | [] => .ok s
  | item :: rest => do ClassSet.meanings f (s.union (← item.meaning f)) rest

end

mutual

/-- What a written pattern means where flags hold, and the flags that hold after it. -/
def Written.meaning (f : FlagState) : Written → Except PatternFault (Draft × FlagState)
  | .empty _ => .ok (.empty, f)
  | .flags _ items => .ok (.empty, f.set items)
  | .literal l => do return (.char (← f.literalSet l), f)
  | .dot span => do return (.char (← f.dotSet span), f)
  | .anchor _ a => .ok (.anchor (f.anchor a), f)
  | .short span k negated => do return (.char (← f.shortSet span k negated), f)
  | .property span name => faultAt (f.propertyFault name) span
  | .bracketed span negated set => do
    let s ← set.meaning f
    return (.char (← f.asText span (f.negated negated (← f.folded span s))), f)
  | .repeated _ low high inner => do
    let (d, f) ← inner.meaning f
    return (d.times low high, f)
  | .group _ own inner => do
    let (d, _) ← inner.meaning (own.elim f f.set)
    return (if own.isNone then d.remembered else d, f)
  | .choice _ choices => do
    let (ds, f) ← Written.meanings f choices
    return (.choice ds, f)
  | .sequence _ parts => do
    let (ds, f) ← Written.meanings f parts
    return (.sequence ds, f)

/-- What parts mean one after the other. -/
def Written.meanings (f : FlagState) :
    List Written → Except PatternFault (List Draft × FlagState)
  | [] => .ok ([], f)
  | part :: rest => do
    let (d, f) ← part.meaning f
    let (ds, f) ← Written.meanings f rest
    return (d :: ds, f)

end

/-- Why a text gives no pattern. -/
inductive PatternError where
  | written (fault : PatternFault)
  /-- The machine for it is too heavy. -/
  | tooHeavy
  /-- It asks for words of any alphabet. -/
  | anyWord
deriving DecidableEq, Repr

/-- What a message says of a text that gives no pattern. -/
def PatternError.text (e : PatternError) (pattern : List Char) : String :=
  match e with
  | written fault => fault.text pattern
  | tooHeavy => "Compiled regex exceeds size limit of " ++ toString Draft.maxWeight ++ " bytes."
  | anyWord => "error building NFA"

/-- The pattern that a text writes. -/
def ofText (text : List Char) : Except PatternError Pattern := do
  let written ← (Written.ofText text).mapError .written
  let (draft, _) ← (written.meaning {}).mapError .written
  if draft.isTooHeavy then throw .tooHeavy
  if draft.pattern.asksAnyWord then throw .anyWord
  return draft.pattern

end TwinBuild.Text.Pattern
