import Mathlib.Data.List.Basic
import TwinBuild.Proofs.FlagRules

/-!
# Where the words of a command line go

An invocation keeps four lists of words: sources, the flags of the compile and of the link step,
and the forbidden flags. Each segment of the command line goes to them complete and in its place:
the flags of both steps to two of them, a few segments to none, every other segment to just one.
Which segments go nowhere, and which go twice, can be read off their text and the language in force.

Main statement: `Invocation.words_conserved`.
-/

namespace TwinBuild

/-- The lists of an invocation that hold words of its command line. -/
inductive Destination where
  | sources
  | compile
  | link
  | forbidden
deriving DecidableEq, Repr

/-- The lists that a segment goes to, by its use. -/
def Use.destinations : Use → List Destination
  | .source => [.sources]
  | .linkInput => [.link]
  | .compile => [.compile]
  | .shared => [.compile, .link]
  | .link => [.link]
  | .forbidden => [.forbidden]
  | _ => []

/-- The words in a list of an invocation. -/
def Invocation.wordsAt (i : Invocation) : Destination → List Octets
  | .sources => i.sources.map Path.text
  | .compile => i.compileArguments
  | .link => i.linkArguments
  | .forbidden => i.forbidden

namespace Segment

/-- A segment that goes nowhere, by its text: standard input, an assembly input, an output, a mode,
or a flag of dependency files. -/
def IsSetAside (language : Option Octets) (s : Segment) : Prop :=
  s.head = Flags.standardInput
  ∨ (s.head.head? ≠ some Octets.hyphen ∧ Use.ofInput language s.head = .assembly)
  ∨ Flags.isOutput s.head = true
  ∨ Flags.modes.contains s.head = true
  ∨ Flags.dependencyFiles.contains s.head = true

/-- A segment of both steps, by its text. -/
def IsShared (s : Segment) : Prop := Flags.sharedFlags.contains s.head = true

end Segment

namespace Use

/-! ## Destinations by the text -/

/-- No flag is used as an input. -/
theorem ofFlag_ne_input {use : Use} (h : use ∈ [standardInput, source, assembly, linkInput])
    (argument : Octets) : ofFlag argument ≠ use := by
  have hempty : ∀ u ∈ [standardInput, source, assembly, linkInput],
      u ≠ .compile ∧ Flags.listed u = {} := by decide +kernel
  intro huse
  rw [ofFlag_eq_decided] at huse
  have hlisted := FlagRule.listed_of_decided (hempty use h).1 huse
  rw [← Flags.listed, (hempty use h).2] at hlisted
  cases hlisted

theorem ofArgument_eq_standardInput_iff (language : Option Octets) (argument : Octets) :
    ofArgument language argument = .standardInput ↔ argument = Flags.standardInput := by
  unfold ofArgument
  split
  · rename_i hinput
    simp [hinput]
  · rename_i hinput
    refine iff_of_false ?_ hinput
    split
    · exact ofFlag_ne_input (by decide) argument
    · rcases ofInput_cases language argument with h | h | h <;> simp [h]

theorem ofArgument_eq_assembly_iff (language : Option Octets) (argument : Octets) :
    ofArgument language argument = .assembly
      ↔ argument.head? ≠ some Octets.hyphen ∧ ofInput language argument = .assembly := by
  unfold ofArgument
  split
  · rename_i hinput
    subst hinput
    refine iff_of_false (by simp) fun h => h.1 (by decide)
  split
  · rename_i hhyphen
    exact iff_of_false (ofFlag_ne_input (by decide) argument) fun h => h.1 hhyphen
  · rename_i hhyphen
    exact (and_iff_right hhyphen).symm

/-- The uses that stand for a mode. -/
def ofModes : List Use :=
  [.compileOnly, .preprocess, .assemble, .emitBitcode, .dependencies, .print]

theorem ofArgument_mem_ofModes_iff (language : Option Octets) (argument : Octets) :
    ofArgument language argument ∈ ofModes ↔ Flags.modes.contains argument = true := by
  have hmodes : Flags.modes = FlagSet.unions (ofModes.map Flags.listed) := by decide +kernel
  have htables : ∀ u ∈ ofModes, u ∈ ofTables := by decide
  rw [hmodes, FlagSet.contains_unions_iff]
  constructor
  · intro h
    refine ⟨_, List.mem_map_of_mem h, ?_⟩
    exact (ofArgument_eq_iff_listed (htables _ h) language argument).1 rfl
  · rintro ⟨f, hf, hlisted⟩
    rcases List.mem_map.1 hf with ⟨u, hu, rfl⟩
    rw [(ofArgument_eq_iff_listed (htables u hu) language argument).2 hlisted]
    exact hu

theorem ofArgument_eq_dependencyFile_iff (language : Option Octets) (argument : Octets) :
    ofArgument language argument = .dependencyFile
      ↔ Flags.dependencyFiles.contains argument = true := by
  have hset : Flags.dependencyFiles = Flags.listed .dependencyFile := by decide +kernel
  rw [hset]
  exact ofArgument_eq_iff_listed (by decide) language argument

theorem ofArgument_eq_shared_iff (language : Option Octets) (argument : Octets) :
    ofArgument language argument = .shared ↔ Flags.sharedFlags.contains argument = true := by
  have hset : Flags.sharedFlags = Flags.listed .shared := by decide +kernel
  rw [hset]
  exact ofArgument_eq_iff_listed (by decide) language argument

theorem sources_mem_destinations (use : Use) :
    .sources ∈ use.destinations ↔ use = .source := by
  cases use <;> decide

theorem forbidden_mem_destinations (use : Use) :
    .forbidden ∈ use.destinations ↔ use = .forbidden := by
  cases use <;> decide

/-- By its use, a segment goes nowhere, goes to both steps, or goes to one list. -/
theorem destinations_cases (use : Use) :
    (use.destinations = []
      ↔ use = .standardInput ∨ use = .assembly ∨ use = .output ∨ use ∈ ofModes
        ∨ use = .dependencyFile)
    ∧ (use.destinations = [.compile, .link] ↔ use = .shared)
    ∧ (use.destinations.length = 1
      ↔ use.destinations ≠ [] ∧ use.destinations ≠ [.compile, .link]) := by
  cases use <;> decide

end Use

namespace Segment

variable (language : Option Octets) (s : Segment)

theorem destinations_eq_nil_iff :
    (Use.ofArgument language s.head).destinations = [] ↔ s.IsSetAside language := by
  rw [(Use.destinations_cases _).1, Use.ofArgument_eq_standardInput_iff,
    Use.ofArgument_eq_assembly_iff, Use.ofArgument_eq_output_iff, Use.ofArgument_mem_ofModes_iff,
    Use.ofArgument_eq_dependencyFile_iff]
  rfl

theorem destinations_eq_both_iff :
    (Use.ofArgument language s.head).destinations = [.compile, .link] ↔ s.IsShared := by
  rw [(Use.destinations_cases _).2.1]
  exact Use.ofArgument_eq_shared_iff language s.head

theorem exists_destination_iff :
    (∃ d, (Use.ofArgument language s.head).destinations = [d])
      ↔ ¬ s.IsSetAside language ∧ ¬ s.IsShared := by
  rw [← List.length_eq_one_iff, (Use.destinations_cases _).2.2]
  exact and_congr (not_congr (destinations_eq_nil_iff language s))
    (not_congr (destinations_eq_both_iff language s))

end Segment

namespace UsedSegment

open Segment

/-! ## The lists -/

/-- What a segment gives to a list. -/
def wordsFor (d : Destination) (u : UsedSegment) : List Octets :=
  if d ∈ u.use.destinations then u.segment.words else []

theorem getElem?_ofSegments (language : Option Octets) (segments : List Segment) (n : Nat) :
    (ofSegments language segments)[n]?
      = segments[n]?.map fun s =>
        ⟨Use.ofArgument (languageThrough language (segments.take n)) s.head, s⟩ := by
  induction segments generalizing language n with
  | nil => rfl
  | cons s segments ih =>
      cases n with
      | zero => rfl
      | succ n =>
          show (ofSegments (s.languageAfter language) segments)[n]? = _
          rw [ih]
          rfl

theorem map_segment_ofSegments (language : Option Octets) (segments : List Segment) :
    (ofSegments language segments).map UsedSegment.segment = segments := by
  induction segments generalizing language with
  | nil => rfl
  | cons s segments ih =>
      rw [ofSegments, List.map_cons, ih]

/-- A flag that takes an operand is no source and not forbidden. -/
theorem use_of_takesOperand {argument : Octets} (h : Flags.takesOperand.contains argument = true)
    (language : Option Octets) :
    Use.ofArgument language argument ∈ [Use.output, .dependencyFile, .compile, .shared, .link] := by
  have hflags : ∀ a ∈ Flags.takesOperand, (a ≠ Flags.standardInput
      ∧ a.head? = some Octets.hyphen)
      ∧ Use.ofFlag a ∈ [Use.output, .dependencyFile, .compile, .shared, .link] := by
    decide +kernel
  rcases hflags argument (List.contains_iff_mem.1 h) with ⟨⟨hinput, hhyphen⟩, huse⟩
  rwa [Use.ofArgument_of_flag language hinput hhyphen]

/-- Sources and forbidden flags are single words. -/
theorem words_of_single {arguments : List Octets} {u : UsedSegment} (hu : u ∈ ofArguments arguments)
    (huse : u.use = .source ∨ u.use = .forbidden) : u.segment.words = [u.segment.head] := by
  rcases List.getElem?_of_mem hu with ⟨n, hn⟩
  rw [ofArguments, getElem?_ofSegments, Option.map_eq_some_iff] at hn
  rcases hn with ⟨s, hs, rfl⟩
  show s.head :: s.operand.toList = [s.head]
  cases hoperand : s.operand with
  | none => rfl
  | some operand =>
      have htakes := (isCut_cut arguments).takes s (List.mem_of_getElem? hs) (by rw [hoperand]; rfl)
      have hlisted := use_of_takesOperand htakes (languageThrough none ((cut arguments).take n))
      rcases huse with huse | huse <;>
        · rw [show Use.ofArgument _ s.head = _ from huse] at hlisted
          simp at hlisted

/-- The output segments are known by their text. -/
theorem filterMap_output? (language : Option Octets) (segments : List Segment) :
    (ofSegments language segments).filterMap output?
      = (segments.filter fun s => Flags.isOutput s.head).map outputPath := by
  induction segments generalizing language with
  | nil => rfl
  | cons s segments ih =>
      have huse := Use.ofArgument_eq_output_iff language s.head
      rw [ofSegments, List.filterMap_cons, output?, ih]
      by_cases h : Flags.isOutput s.head = true
      · rw [List.filter_cons_of_pos (by exact h), if_pos (huse.2 h)]
        rfl
      · rw [List.filter_cons_of_neg (by exact h), if_neg (fun hout => h (huse.1 hout))]

end UsedSegment

namespace Invocation

open Segment UsedSegment

/-- Each list is the words of its segments, in order. -/
theorem wordsAt_ofArguments (arguments : List Octets) (d : Destination) :
    (ofArguments arguments).wordsAt d
      = (UsedSegment.ofArguments arguments).flatMap (wordsFor d) := by
  cases d with
  | sources =>
      show ((UsedSegment.ofArguments arguments).filterMap source?).map Path.text = _
      rw [List.map_filterMap, List.filterMap_eq_flatMap_toList]
      apply List.flatMap_congr
      intro u hu
      simp only [source?, wordsFor, Use.sources_mem_destinations]
      split
      · rename_i huse
        rw [words_of_single hu (Or.inl huse)]
        rfl
      · rfl
  | compile =>
      show (UsedSegment.ofArguments arguments).flatMap compileWords = _
      congr 1
      funext u
      unfold compileWords wordsFor
      cases u.use <;> rfl
  | link =>
      show (UsedSegment.ofArguments arguments).flatMap linkWords = _
      congr 1
      funext u
      unfold linkWords wordsFor
      cases u.use <;> rfl
  | forbidden =>
      show (UsedSegment.ofArguments arguments).filterMap forbidden? = _
      rw [List.filterMap_eq_flatMap_toList]
      apply List.flatMap_congr
      intro u hu
      simp only [forbidden?, wordsFor, Use.forbidden_mem_destinations]
      split
      · rename_i huse
        rw [words_of_single hu (Or.inr huse)]
        rfl
      · rfl

/-- The output is that of the last output segment. -/
theorem output_ofArguments (arguments : List Octets) :
    (ofArguments arguments).output
      = ((cut arguments).filter fun s => Flags.isOutput s.head).getLast?.bind outputPath := by
  show ((UsedSegment.ofArguments arguments).filterMap output?).getLast?.join = _
  rw [UsedSegment.ofArguments, filterMap_output?, List.getLast?_map]
  cases ((cut arguments).filter fun s => Flags.isOutput s.head).getLast? <;> rfl

/-- What holds of a segment on a command line, where a language is in force: it goes nowhere
exactly if its text is set aside, to both steps exactly if it is shared, and else to one list. -/
structure Placed (language : Option Octets) (u : UsedSegment) : Prop where
  nowhere : u.use.destinations = [] ↔ u.segment.IsSetAside language
  both : u.use.destinations = [.compile, .link] ↔ u.segment.IsShared
  one : (∃ d, u.use.destinations = [d])
    ↔ ¬ u.segment.IsSetAside language ∧ ¬ u.segment.IsShared

/-- **Every word is kept, once and in order.** There is one way to cut a command line. Its segments
are placed one by one, by their text and the language in force where they stand; each list of the
invocation is the words of the segments that go to it, complete and in order; and the output is
that of the last output segment. -/
theorem words_conserved (arguments : List Octets) :
    (∀ segments, segments.flatMap words = arguments ∧ IsCut segments ↔ cut arguments = segments)
    ∧ (UsedSegment.ofArguments arguments).map UsedSegment.segment = cut arguments
    ∧ (∀ n u, (UsedSegment.ofArguments arguments)[n]? = some u →
      Placed (languageThrough none ((cut arguments).take n)) u)
    ∧ (∀ d, (ofArguments arguments).wordsAt d
      = (UsedSegment.ofArguments arguments).flatMap (wordsFor d))
    ∧ (ofArguments arguments).output
      = ((cut arguments).filter fun s => Flags.isOutput s.head).getLast?.bind outputPath := by
  refine ⟨fun segments => cut_eq_iff.symm, map_segment_ofSegments none _, ?_,
    wordsAt_ofArguments arguments, output_ofArguments arguments⟩
  intro n u hu
  rw [UsedSegment.ofArguments, getElem?_ofSegments, Option.map_eq_some_iff] at hu
  rcases hu with ⟨s, -, rfl⟩
  exact ⟨destinations_eq_nil_iff _ s, destinations_eq_both_iff _ s, exists_destination_iff _ s⟩

/-- A command line on which operands look like flags, flags like those of another table, and an
input is assembly by the language in force alone. -/
def imitations : List Octets := Flags.table ["-o", "-c", "-Wl,-bitcode_bundle", "-object",
  "-objcmt-c", "-MFa.d", "-arch", "-l", "-x", "assembler", "a.c", "-x", "none", "a.c", "-l"]

/-- The architecture `-l` goes to both steps with its flag, and the assembly input nowhere. -/
theorem imitations_placed :
    Invocation.Placed none ⟨.shared, ⟨.ofString "-arch", some (.ofString "-l")⟩⟩
    ∧ Invocation.Placed (some (.ofString "assembler")) ⟨.assembly, ⟨.ofString "a.c", none⟩⟩
    ∧ (ofArguments imitations).wordsAt .compile
      = Flags.table ["-objcmt-c", "-arch", "-l", "-x", "assembler", "-x", "none"] := by
  rcases words_conserved imitations with ⟨-, -, hplaced, hlists, -⟩
  refine ⟨hplaced 5 _ (by decide +kernel), hplaced 7 _ (by decide +kernel), ?_⟩
  rw [hlists]
  decide +kernel

end Invocation

end TwinBuild
