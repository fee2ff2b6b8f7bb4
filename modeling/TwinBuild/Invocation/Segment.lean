import TwinBuild.Invocation.Flags

/-!
# Segments of a command line

A command line is cut from left to right into segments: a flag that takes an operand with the next
argument, whatever that looks like, and any other argument by itself. A language flag is in force
for the inputs after it.

Main statement: `words_cut`, the segments in order are the command line.
-/

namespace TwinBuild

/-- An argument, with its operand if it is a flag that takes one and one follows. -/
structure Segment where
  head : Octets
  operand : Option Octets := none
deriving DecidableEq, Repr

namespace Segment

/-- The arguments of a segment. -/
def words (s : Segment) : List Octets := s.head :: s.operand.toList

/-- Cut a command line into segments. -/
def cut : List Octets → List Segment
  | [] => []
  | [last] => [⟨last, none⟩]
  | argument :: next :: rest =>
    if Flags.takesOperand.contains argument then ⟨argument, some next⟩ :: cut rest
    else ⟨argument, none⟩ :: cut (next :: rest)

/-- The language in force after a segment. -/
def languageAfter (s : Segment) (language : Option Octets) : Option Octets :=
  if s.head = Flags.language then s.operand.filter (· ≠ Flags.noLanguage) else language

/-- The output that an output segment names. -/
def outputPath (s : Segment) : Option Path :=
  if s.head = Flags.output then s.operand.map Path.mk
  else some ⟨s.head.drop Flags.output.length⟩

/-- The segments of a command line, in order, are the command line. -/
theorem words_cut (arguments : List Octets) : (cut arguments).flatMap words = arguments := by
  fun_induction cut arguments with
  | case1 => rfl
  | case2 => rfl
  | case3 argument next rest _ ih => simp [words, ih]
  | case4 argument next rest _ ih => simp [words, ih]

end Segment

/-- A segment with the use it has on its command line. -/
structure UsedSegment where
  use : Use
  segment : Segment
deriving DecidableEq, Repr

namespace UsedSegment

/-- The segments with their uses, where `language` is in force at the beginning. -/
def ofSegments (language : Option Octets) : List Segment → List UsedSegment
  | [] => []
  | s :: rest =>
    ⟨Use.ofArgument language s.head, s⟩ :: ofSegments (s.languageAfter language) rest

/-- The segments of a command line with their uses. -/
def ofArguments (arguments : List Octets) : List UsedSegment :=
  ofSegments none (Segment.cut arguments)

/-- The source that a segment names. -/
def source? (u : UsedSegment) : Option Path :=
  if u.use = .source then some ⟨u.segment.head⟩ else none

/-- What a segment gives to the compile step. -/
def compileWords (u : UsedSegment) : List Octets :=
  if u.use = .compile || u.use = .shared then u.segment.words else []

/-- What a segment gives to the link step. -/
def linkWords (u : UsedSegment) : List Octets :=
  if u.use = .link || u.use = .shared || u.use = .linkInput then u.segment.words else []

/-- The flag that the native compile must not see. -/
def forbidden? (u : UsedSegment) : Option Octets :=
  if u.use = .forbidden then some u.segment.head else none

/-- The output that a segment names, if it is an output segment. -/
def output? (u : UsedSegment) : Option (Option Path) :=
  if u.use = .output then some u.segment.outputPath else none

end UsedSegment

end TwinBuild
