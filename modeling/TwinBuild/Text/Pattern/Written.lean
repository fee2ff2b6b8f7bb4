import TwinBuild.Text.Pattern
import TwinBuild.Text.Pattern.Fault

/-!
# Written patterns

What a pattern is written with, each part with the stretch of text that it takes: what it means
depends on the flags that are set where it stands.
-/

namespace TwinBuild.Text.Pattern

/-- A setting for a part of a pattern. -/
inductive Flag where
  /-- Large and small letters are alike. -/
  | ignoreCase
  /-- Lines have a start and a stop of their own. -/
  | multiLine
  /-- A dot is any character. -/
  | dotAll
  /-- Repetitions prefer the other length. -/
  | swapGreed
  /-- Characters and not octets are meant. -/
  | unicode
  /-- A carriage return may end a line. -/
  | returns
  /-- Blanks and comments are passed over. -/
  | freely
deriving DecidableEq, Repr

/-- The flag of a letter. -/
def Flag.ofLetter? : Char → Option Flag
  | 'i' => some ignoreCase
  | 'm' => some multiLine
  | 's' => some dotAll
  | 'U' => some swapGreed
  | 'u' => some unicode
  | 'R' => some returns
  | 'x' => some freely
  | _ => none

/-- A written flag, or the sign that negates those after it. -/
structure FlagItem where
  span : Span
  flag : Option Flag
deriving DecidableEq, Repr

/-- What some written flags say of one. -/
def Flag.stateIn (f : Flag) : List FlagItem → Option Bool
  | [] => none
  | item :: rest =>
    if item.flag = some f then some true
    else if item.flag.isNone then
      if rest.any (·.flag = some f) then some false else none
    else f.stateIn rest

/-- A class of ASCII characters that has a name. -/
inductive AsciiClass where
  | alnum
  | alpha
  | ascii
  | blank
  | cntrl
  | digit
  | graph
  | lower
  | print
  | punct
  | space
  | upper
  | word
  | xdigit
deriving DecidableEq, Repr

namespace AsciiClass

/-- The classes by name. -/
def names : List (String × AsciiClass) := [
  ("alnum", alnum), ("alpha", alpha), ("ascii", ascii), ("blank", blank), ("cntrl", cntrl),
  ("digit", digit), ("graph", graph), ("lower", lower), ("print", print), ("punct", punct),
  ("space", space), ("upper", upper), ("word", word), ("xdigit", xdigit)]

/-- The class of a name. -/
def ofName? (name : List Char) : Option AsciiClass := names.lookup (String.ofList name)

/-- The characters of a class. -/
def set : AsciiClass → CharSet
  | alnum => ⟨[(0x30, 0x39), (0x41, 0x5A), (0x61, 0x7A)]⟩
  | alpha => ⟨[(0x41, 0x5A), (0x61, 0x7A)]⟩
  | ascii => ⟨[(0, 0x7F)]⟩
  | blank => ⟨[(0x9, 0x9), (0x20, 0x20)]⟩
  | cntrl => ⟨[(0, 0x1F), (0x7F, 0x7F)]⟩
  | digit => ⟨[(0x30, 0x39)]⟩
  | graph => ⟨[(0x21, 0x7E)]⟩
  | lower => ⟨[(0x61, 0x7A)]⟩
  | print => ⟨[(0x20, 0x7E)]⟩
  | punct => ⟨[(0x21, 0x2F), (0x3A, 0x40), (0x5B, 0x60), (0x7B, 0x7E)]⟩
  | space => ⟨[(0x9, 0xD), (0x20, 0x20)]⟩
  | upper => ⟨[(0x41, 0x5A)]⟩
  | word => ⟨[(0x30, 0x39), (0x41, 0x5A), (0x5F, 0x5F), (0x61, 0x7A)]⟩
  | xdigit => ⟨[(0x30, 0x39), (0x41, 0x46), (0x61, 0x66)]⟩

end AsciiClass

/-- A character that stands for itself. -/
structure Literal where
  span : Span
  char : Char
  /-- Whether it is written as the two digits of an octet. -/
  isOctet : Bool := false
deriving DecidableEq, Repr

/-- A property of characters by its name, or by a name and a value. -/
inductive PropertyName where
  | plain (name : List Char)
  | valued
deriving DecidableEq, Repr

/-- How two classes are combined. -/
inductive ClassOperation where
  | inter
  | diff
  | symmDiff
deriving DecidableEq, Repr

/-- What is written between brackets. -/
inductive ClassSet where
  | empty (span : Span)
  | literal (l : Literal)
  | range (first last : Literal)
  /-- A class named between colons. -/
  | named (span : Span) (k : AsciiClass) (negated : Bool)
  /-- A class named by one letter. -/
  | short (span : Span) (k : AsciiClass) (negated : Bool)
  | property (span : Span) (name : PropertyName)
  | bracketed (span : Span) (negated : Bool) (set : ClassSet)
  | union (span : Span) (items : List ClassSet)
  | combined (span : Span) (op : ClassOperation) (left right : ClassSet)
deriving Repr

/-- The stretch that a part between brackets takes. -/
def ClassSet.span : ClassSet → Span
  | empty span => span
  | literal l => l.span
  | range first last => ⟨first.span.start, last.span.stop⟩
  | named span _ _ => span
  | short span _ _ => span
  | property span _ => span
  | bracketed span _ _ => span
  | union span _ => span
  | combined span _ _ _ => span

/-- A written anchor. -/
inductive AnchorSign where
  | lineStart
  | lineStop
  | textStart
  | textStop
  | word (edge : WordEdge)
deriving DecidableEq, Repr

/-- A written pattern. -/
inductive Written where
  | empty (span : Span)
  | flags (span : Span) (items : List FlagItem)
  | literal (l : Literal)
  | dot (span : Span)
  | anchor (span : Span) (a : AnchorSign)
  | short (span : Span) (k : AsciiClass) (negated : Bool)
  | property (span : Span) (name : PropertyName)
  | bracketed (span : Span) (negated : Bool) (set : ClassSet)
  | repeated (span : Span) (low : Nat) (high : Option Nat) (inner : Written)
  /-- A group, remembered or with flags of its own. -/
  | group (span : Span) (own : Option (List FlagItem)) (inner : Written)
  | choice (span : Span) (choices : List Written)
  | sequence (span : Span) (parts : List Written)
deriving Repr

/-- The stretch that a written pattern takes. -/
def Written.span : Written → Span
  | empty span => span
  | flags span _ => span
  | literal l => l.span
  | dot span => span
  | anchor span _ => span
  | short span _ _ => span
  | property span _ => span
  | bracketed span _ _ => span
  | repeated span _ _ _ => span
  | group span _ _ => span
  | choice span _ => span
  | sequence span _ => span

/-- Whether a repetition can apply to a part. -/
def Written.isRepeatable : Written → Bool
  | empty _ => false
  | flags _ _ => false
  | _ => true

/-! ## Depth -/

mutual

/-- The first part between brackets that is nested too deep, where `depth` levels are around. -/
def ClassSet.tooDeep? (depth : Nat) : ClassSet → Option Span
  | .bracketed span _ set => if maxDepth ≤ depth then some span else set.tooDeep? (depth + 1)
  | .union span items => if maxDepth ≤ depth then some span else ClassSet.anyTooDeep? (depth + 1) items
  | .combined span _ left right =>
    if maxDepth ≤ depth then some span
    else (left.tooDeep? (depth + 1)).or (right.tooDeep? (depth + 1))
  | .empty _ => none
  | .literal _ => none
  | .range _ _ => none
  | .named _ _ _ => none
  | .short _ _ _ => none
  | .property _ _ => none

/-- The first of some parts that is nested too deep. -/
def ClassSet.anyTooDeep? (depth : Nat) : List ClassSet → Option Span
  | [] => none
  | item :: rest => (item.tooDeep? depth).or (ClassSet.anyTooDeep? depth rest)

end

mutual

/-- The first part that is nested too deep, where `depth` levels are around. -/
def Written.tooDeep? (depth : Nat) : Written → Option Span
  | .bracketed span _ set => if maxDepth ≤ depth then some span else set.tooDeep? (depth + 1)
  | .repeated span _ _ inner => if maxDepth ≤ depth then some span else inner.tooDeep? (depth + 1)
  | .group span _ inner => if maxDepth ≤ depth then some span else inner.tooDeep? (depth + 1)
  | .choice span choices =>
    if maxDepth ≤ depth then some span else Written.anyTooDeep? (depth + 1) choices
  | .sequence span parts =>
    if maxDepth ≤ depth then some span else Written.anyTooDeep? (depth + 1) parts
  | .empty _ => none
  | .flags _ _ => none
  | .literal _ => none
  | .dot _ => none
  | .anchor _ _ => none
  | .short _ _ _ => none
  | .property _ _ => none

/-- The first of some parts that is nested too deep. -/
def Written.anyTooDeep? (depth : Nat) : List Written → Option Span
  | [] => none
  | part :: rest => (part.tooDeep? depth).or (Written.anyTooDeep? depth rest)

end

end TwinBuild.Text.Pattern
