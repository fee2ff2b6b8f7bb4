import TwinBuild.Proofs.Extensions
import TwinBuild.Proofs.Outcome
import TwinBuild.Proofs.Rereading
import TwinBuild.Proofs.SourceReplay

/-!
# The final link

The last command of a compilation links the objects made beside the native compile. It is a command
line like any other, so it can be read: the objects are inputs of the linker, the arguments between
them and the output are those that the invocation has for its link step, and the output is the one
that was asked for. Nothing is left to compile.

Main statement: `Compilation.link_read_back`.
-/

namespace TwinBuild

open Segment UsedSegment Replay Session

namespace Invocation

/-- Objects on a command line, each an input of the linker. -/
def inputSegments (objects : List Path) : List UsedSegment :=
  objects.map fun object => ⟨.linkInput, ⟨object.text, none⟩⟩

/-- Objects at the beginning of a command line are inputs of the linker there, and leave the rest to
itself. -/
theorem ofSegments_inputSegments {objects : List Path}
    (h : ∀ object ∈ objects, Use.ofArgument none object.text = .linkInput) (rest : List Segment) :
    UsedSegment.ofSegments none ((inputSegments objects).map UsedSegment.segment ++ rest)
      = inputSegments objects ++ UsedSegment.ofSegments none rest := by
  induction objects with
  | nil => rfl
  | cons object objects ih =>
      rw [List.forall_mem_cons] at h
      -- a single word sets no language
      have hlanguage : languageAfter ⟨object.text, none⟩ none = none := ite_self _
      show UsedSegment.ofSegments none
        (⟨object.text, none⟩ :: ((inputSegments objects).map UsedSegment.segment ++ rest)) = _
      rw [UsedSegment.ofSegments, hlanguage, ih h.2, h.1]
      rfl

theorem flatMap_words_inputSegments (objects : List Path) :
    ((inputSegments objects).map UsedSegment.segment).flatMap words = objects.map Path.text := by
  rw [inputSegments, List.map_map, List.flatMap_map]
  exact List.flatMap_pure_eq_map _ _

/-- Segments of the two steps before an output. -/
theorem ofUsedSegments_outputSegment (arguments : List Octets) (kept : List UsedSegment)
    (output : Path) :
    ofUsedSegments arguments (kept ++ [⟨.output, outputSegment output⟩])
      = { ofUsedSegments arguments kept with output := some output } := by
  have houtput : (UsedSegment.mk .output (outputSegment output)).output? = some (some output) := rfl
  simp [ofUsedSegments, houtput, source?, forbidden?, compileWords, linkWords]

/-- What the segments of a link amount to: the objects, the arguments of the link step, and the
output. The flags of both steps are those of the command line. -/
theorem ofUsedSegments_link (objects : List Path) (arguments words : List Octets) (output : Path) :
    ofUsedSegments words
        (inputSegments objects ++ keptFor .link arguments ++ [⟨.output, outputSegment output⟩])
      = { arguments := words
          compileArguments := sharedArguments arguments
          linkArguments := objects.map Path.text ++ (ofArguments arguments).linkArguments
          output := some output } := by
  have hsteps : ∀ u ∈ inputSegments objects ++ keptFor .link arguments,
      u.use ∈ [Use.compile, .shared, .link, .linkInput] := by
    rw [List.forall_mem_append]
    constructor
    · simp [inputSegments]
    · intro u hu
      rcases use_of_mem_keptFor.2 hu with h | h | h <;> simp [h]
  have hcompile : (inputSegments objects).flatMap compileWords = [] := by
    simp [inputSegments, compileWords]
  have hlink : (inputSegments objects).flatMap linkWords = objects.map Path.text := by
    rw [← flatMap_words_inputSegments, List.flatMap_map, inputSegments, List.flatMap_map,
      List.flatMap_map]
    rfl
  rw [ofUsedSegments_outputSegment, ofUsedSegments_of_steps hsteps, List.flatMap_append,
    List.flatMap_append, hcompile, hlink, (flatMap_keptFor_link arguments).1,
    (flatMap_keptFor_link arguments).2]
  rfl

/-- The hidden objects of an invocation are absolute paths with the extension of objects. -/
theorem objects_hidden {i : Invocation} (hcompiles : i.compilesOnly = false) {scratch object : Path}
    (hscratch : scratch.isAbsolute = true) (h : object ∈ i.objects (.hidden scratch)) :
    object.isAbsolute = true ∧ object.extension = some (Octets.ofString "o") := by
  obtain ⟨index, hindex, rfl⟩ := List.mem_mapIdx.1 h
  rw [i.artifactOf_of_links hcompiles]
  exact ⟨Artifact.isAbsolute_hidden_object hscratch _ _, Artifact.extension_hidden_object _ _ _⟩

end Invocation

/-- An absolute path with the extension of objects is an input of the linker. -/
theorem Use.ofArgument_object {object : Path} (habsolute : object.isAbsolute = true)
    (hextension : object.extension = some (Octets.ofString "o")) :
    object.text.head? ≠ some Octets.hyphen ∧ Use.ofArgument none object.text = .linkInput := by
  have hhead : object.text.head? = some Octets.slash := by simpa [Path.isAbsolute] using habsolute
  have hhyphen : object.text.head? ≠ some Octets.hyphen := by
    rw [hhead]
    decide
  have hinput : object.text ≠ Flags.standardInput := by
    intro heq
    rw [heq] at hhead
    exact absurd hhead (by decide)
  refine ⟨hhyphen, ?_⟩
  rw [ofArgument, if_neg hinput, if_neg hhyphen, ofInput]
  simp only [show (Path.mk object.text).extension = _ from hextension]
  decide +kernel

namespace Compilation

open Invocation

/-- **The segments of a link.** Unless the link arguments end in a flag whose operand is missing,
they stand between the objects and the output as they stood on the command line. -/
theorem ofArguments_linkCommand (compiler : Path) {arguments : List Octets}
    (hdangles : dangles (Invocation.ofArguments arguments).linkArguments = false)
    {objects : List Path}
    (hobjects : ∀ object ∈ objects, object.text.head? ≠ some Octets.hyphen
      ∧ Use.ofArgument none object.text = .linkInput) :
    UsedSegment.ofArguments
        (linkCommand compiler (Invocation.ofArguments arguments) objects).arguments
      = inputSegments objects ++ keptFor .link arguments
        ++ [⟨.output, outputSegment (outputOf (Invocation.ofArguments arguments))⟩] := by
  have hwords : (linkCommand compiler (Invocation.ofArguments arguments) objects).arguments
      = ((inputSegments objects).map UsedSegment.segment
          ++ (cut (Invocation.ofArguments arguments).linkArguments
            ++ [outputSegment (outputOf (Invocation.ofArguments arguments))])).flatMap words := by
    rw [List.flatMap_append, List.flatMap_append, flatMap_words_inputSegments, words_cut,
      List.flatMap_singleton, ← List.append_assoc]
    rfl
  have hcomplete : ∀ s ∈ (inputSegments objects).map UsedSegment.segment
      ++ (cut (Invocation.ofArguments arguments).linkArguments
        ++ [outputSegment (outputOf (Invocation.ofArguments arguments))]), s.Complete := by
    rw [List.forall_mem_append, List.forall_mem_append, List.forall_mem_singleton]
    refine ⟨?_, complete_of_mem_cut hdangles, complete_outputSegment _⟩
    simp only [inputSegments, List.map_map, List.forall_mem_map]
    exact fun object hobject => complete_source (hobjects object hobject).1
  have hcut := cut_flatMap_words hcomplete []
  rw [List.append_nil, ← hwords, cut, List.append_nil] at hcut
  rw [UsedSegment.ofArguments, hcut,
    ofSegments_inputSegments fun object hobject => (hobjects object hobject).2,
    ofSegments_outputSegment, ← UsedSegment.ofArguments, ofArguments_linkArguments,
    List.append_assoc]

/-- A compilation that is to link and succeeds issues the link of all objects last. -/
theorem exists_adds_link (c : Compilation) (compiler : Path) {i : Invocation} {scratch : Path}
    (hcompiles : i.compilesOnly = false) (hbypass : i.bypass? c.settings.configuring = none)
    {s : Session} (hscratch : ((makeScratch i).run s).1 = .ok (some scratch))
    (hsuccess : ((c.compile compiler i).run s).1 = .ok .success) :
    ∃ earlier entry, Adds (c.compile compiler i) s (earlier ++ [entry])
      ∧ entry.command = linkCommand compiler i (i.objects (.hidden scratch)) := by
  have hrun := run_compile_of_scratch c compiler i hbypass hscratch
  obtain ⟨b, later, -, hadds, -, hlater, houtcome⟩ := c.exists_builds_buildTwice compiler i
    (makesObjects_of_makeScratch i hscratch) ((makeScratch i).run s).2
  have hsucceeded : b.succeeded = true := by
    by_contra hfailed
    rw [hrun, houtcome, if_neg hfailed] at hsuccess
    cases hsuccess
  rw [if_pos hsucceeded, finishCommands, if_neg (by rw [hcompiles]; exact Bool.false_ne_true),
    List.map_eq_append_iff] at hlater
  obtain ⟨embeds, links, rfl, -, hlinks⟩ := hlater
  obtain ⟨entry, rfl, hentry⟩ := List.map_eq_singleton_iff.1 hlinks
  refine ⟨b.entries ++ embeds, entry, ?_, hentry⟩
  rw [List.append_assoc]
  exact adds_compile_of_scratch hbypass hscratch hadds

/-- **The final link reads back as the requested link.** Let the link arguments of an invocation not
end in a flag whose operand is missing, and let the scratch directory be an absolute path. Then the
link of the hidden objects is read as these objects, the segments of the link step as they were and
in order, and one output, the one asked for. Nothing on it is a source, a mode, assembly or standard
input. A compilation that succeeds issues it as its last command. -/
theorem link_read_back (c : Compilation) (compiler : Path) {arguments : List Octets}
    {scratch : Path}
    (hdangles : dangles (Invocation.ofArguments arguments).linkArguments = false)
    (hcompiles : (Invocation.ofArguments arguments).compilesOnly = false)
    (hscratch : scratch.isAbsolute = true) :
    let i := Invocation.ofArguments arguments
    let objects := i.objects (.hidden scratch)
    let link := linkCommand compiler i objects
    UsedSegment.ofArguments link.arguments
      = inputSegments objects ++ keptFor .link arguments
        ++ [⟨.output, outputSegment (i.output.getD usualOutput)⟩]
    ∧ Invocation.ofArguments link.arguments
      = { arguments := link.arguments
          compileArguments := sharedArguments arguments
          linkArguments := objects.map Path.text ++ i.linkArguments
          output := some (i.output.getD usualOutput) }
    ∧ ∀ s, i.bypass? c.settings.configuring = none →
      ((makeScratch i).run s).1 = .ok (some scratch) →
      ((c.compile compiler i).run s).1 = .ok .success →
      ∃ earlier entry, Adds (c.compile compiler i) s (earlier ++ [entry])
        ∧ entry.command = link := by
  intro i objects link
  have hread : UsedSegment.ofArguments link.arguments
      = inputSegments objects ++ keptFor .link arguments
        ++ [⟨.output, outputSegment (i.output.getD usualOutput)⟩] := by
    refine ofArguments_linkCommand compiler hdangles fun object hobject => ?_
    obtain ⟨habsolute, hextension⟩ := objects_hidden hcompiles hscratch hobject
    exact Use.ofArgument_object habsolute hextension
  refine ⟨hread, ?_, fun s hbypass hmade => c.exists_adds_link compiler hcompiles hbypass hmade⟩
  show ofUsedSegments _ (UsedSegment.ofArguments _) = _
  rw [hread, ofUsedSegments_link]

/-- Operands of the linker that look like an output and a mode, a source without a file name and one
with two extensions: all of it is linked as it was asked for. -/
theorem link_read_back_odd_operands :
    let arguments := Flags.table ["-x", "c", "..", "-x", "none", "a.b.c", "-Xlinker", "-o", "x.a",
      "-L", "-c", "-pthread", "-o", "out"]
    let i := Invocation.ofArguments arguments
    let scratch := Path.ofString "/tmp/dualcc000000"
    let c : Compilation := { runner := ({} : Rehearsal).runner }
    let link := linkCommand (.ofString "/cc") i (i.objects (.hidden scratch))
    (Invocation.ofArguments link.arguments).sources = []
    ∧ (Invocation.ofArguments link.arguments).linkArguments
      = Flags.table ["/tmp/dualcc000000/....0.o", "/tmp/dualcc000000/.a.b.1.o", "-Xlinker", "-o",
          "x.a", "-L", "-c", "-pthread"]
    ∧ ∃ earlier entry,
      Adds (c.compile (.ofString "/cc") i) (bareSession fun _ => none) (earlier ++ [entry])
        ∧ entry.command = link := by
  intro arguments i scratch c link
  obtain ⟨-, hread, hlast⟩ := @link_read_back c (.ofString "/cc") arguments scratch
    (by decide +kernel) (by decide +kernel) (by decide +kernel)
  refine ⟨?_, ?_, hlast _ (by decide +kernel) (by decide +kernel) (by decide +kernel)⟩
  · rw [hread]
  · rw [hread]
    decide +kernel

end Compilation

end TwinBuild
