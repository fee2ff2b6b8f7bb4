import TwinBuild.Proofs.Segments
import TwinBuild.Replay

/-!
# How a replayed source is read

The commands of a replay are command lines themselves, and what they make depends on how they are
read. All flags of the compile step stand before the source there, so the source is read in the
language that is in force at the end of the original command line. A command line that changes the
language after a source has that source replayed in another language, or not at all.

Main statement: `replaysAs_iff`.
-/

namespace TwinBuild

namespace Invocation

/-- The sources of a command line, each with the language in force where it stands. -/
def readings (arguments : List Octets) : List (Path × Option Octets) :=
  Segment.readings none (Segment.cut arguments)

/-- The language in force at the end of a command line. -/
def finalLanguage (arguments : List Octets) : Option Octets :=
  Segment.languageThrough none (Segment.cut arguments)

theorem map_fst_readings (arguments : List Octets) :
    (readings arguments).map Prod.fst = (ofArguments arguments).sources :=
  UsedSegment.map_fst_readings none (Segment.cut arguments)

theorem compileArguments_ofArguments (arguments : List Octets) :
    (ofArguments arguments).compileArguments
      = ((Segment.cut arguments).filter Segment.isCompileFlag).flatMap Segment.words :=
  UsedSegment.flatMap_compileWords none (Segment.cut arguments)

end Invocation

namespace Replay

open Segment

/-! ## The segments of a replay -/

/-- The segment that stops before the link. -/
def stopSegment : Segment := ⟨Flags.compileOnly, none⟩

/-- The segment that asks for bitcode. -/
def emitSegment : Segment := ⟨Flags.emitBitcode, none⟩

/-- The segment that names an output. -/
def outputSegment (output : Path) : Segment := ⟨Flags.output, some output.text⟩

/-- A segment that says what is to be made of the source. -/
def IsMode (s : Segment) : Prop := s = stopSegment ∨ s = emitSegment

theorem IsMode.complete {s : Segment} (h : IsMode s) : s.Complete := by
  rcases h with rfl | rfl <;> decide

theorem use_stopSegment (language : Option Octets) :
    Use.ofArgument language stopSegment.head = .compileOnly := by
  rw [Use.ofArgument_of_flag language (by decide) (by decide)]
  decide

theorem use_emitSegment (language : Option Octets) :
    Use.ofArgument language emitSegment.head = .emitBitcode := by
  rw [Use.ofArgument_of_flag language (by decide) (by decide)]
  decide

theorem IsMode.use {s : Segment} (h : IsMode s) (language : Option Octets) :
    Use.ofArgument language s.head = .compileOnly
      ∨ Use.ofArgument language s.head = .emitBitcode := by
  rcases h with rfl | rfl
  · exact Or.inl (use_stopSegment language)
  · exact Or.inr (use_emitSegment language)

theorem complete_outputSegment (output : Path) : (outputSegment output).Complete := by
  show true = Flags.takesOperand.contains Flags.output
  decide

theorem use_outputSegment (output : Path) (language : Option Octets) :
    Use.ofArgument language (outputSegment output).head = .output := by
  show Use.ofArgument language Flags.output = .output
  rw [Use.ofArgument_of_flag language (by decide) (by decide)]
  decide

/-- Modes are no flags of the compile step. -/
theorem IsMode.isCompileFlag {s : Segment} (h : IsMode s) : s.isCompileFlag = false := by
  rcases h with rfl | rfl <;> decide

theorem languageThrough_modes {modes : List Segment} (h : ∀ s ∈ modes, IsMode s)
    (language : Option Octets) : languageThrough language modes = language := by
  rw [← languageThrough_filter, List.filter_eq_nil_iff.2 fun s hs => ?_]
  · rfl
  · rw [(h s hs).isCompileFlag]
    exact Bool.false_ne_true

theorem readings_modes {modes : List Segment} (h : ∀ s ∈ modes, IsMode s)
    (language : Option Octets) : readings language modes = [] := by
  refine readings_eq_nil (fun s hs language hsource => ?_) language
  have huse := (h s hs).use language
  rw [hsource] at huse
  simp at huse

/-- The segments of a command that replays a source: flags, the source among modes, the output. -/
def replaySegments (flags before : List Segment) (source : Path) (after : List Segment)
    (output : Path) : List Segment :=
  flags ++ (before ++ ⟨source.text, none⟩ :: (after ++ [outputSegment output]))

variable {flags before after : List Segment} {source : Path} (output : Path)

theorem complete_source (h : source.text.head? ≠ some Octets.hyphen) :
    Complete ⟨source.text, none⟩ := by
  have hhyphen : ∀ flag ∈ Flags.takesOperand, flag.head? = some Octets.hyphen := by decide
  show false = Flags.takesOperand.contains source.text
  refine (Bool.eq_false_iff.2 fun hcontains => ?_).symm
  exact h (hhyphen _ (List.contains_iff_mem.1 hcontains))

/-- The source of a replay is read in the language that its flags leave in force. -/
theorem readings_replaySegments (hflags : ∀ s ∈ flags, s.isCompileFlag = true)
    (hbefore : ∀ s ∈ before, IsMode s) (hafter : ∀ s ∈ after, IsMode s)
    (hsource : source.text.head? ≠ some Octets.hyphen) :
    readings none (replaySegments flags before source after output)
      = if Use.ofArgument (languageThrough none flags) source.text = .source then
          [(source, languageThrough none flags)]
        else [] := by
  -- a source is no language flag
  have hkeeps : languageAfter ⟨source.text, none⟩ (languageThrough none flags)
      = languageThrough none flags := by
    unfold languageAfter
    rw [if_neg]
    intro hlanguage
    exact hsource (by rw [show source.text = Flags.language from hlanguage]; decide)
  have houtput : readings (languageThrough none flags) [outputSegment output] = [] := by
    rw [readings, use_outputSegment]
    rfl
  unfold replaySegments
  rw [readings_append, readings_of_flags hflags, List.nil_append, readings_append,
    readings_modes hbefore, List.nil_append, languageThrough_modes hbefore, readings, hkeeps,
    readings_append, readings_modes hafter, languageThrough_modes hafter, houtput]
  simp

theorem cut_replaySegments (hcomplete : ∀ s ∈ flags, s.Complete)
    (hbefore : ∀ s ∈ before, IsMode s) (hafter : ∀ s ∈ after, IsMode s)
    (hsource : source.text.head? ≠ some Octets.hyphen) :
    cut ((replaySegments flags before source after output).flatMap words)
      = replaySegments flags before source after output := by
  have hall : ∀ s ∈ replaySegments flags before source after output, s.Complete := by
    unfold replaySegments
    rw [List.forall_mem_append, List.forall_mem_append, List.forall_mem_cons,
      List.forall_mem_append, List.forall_mem_singleton]
    exact ⟨hcomplete, fun s hs => (hbefore s hs).complete, complete_source hsource,
      fun s hs => (hafter s hs).complete, complete_outputSegment output⟩
  have hcut := cut_flatMap_words hall []
  rwa [List.append_nil, cut, List.append_nil] at hcut

theorem ofSegments_outputSegment (language : Option Octets) (segments : List Segment)
    (output : Path) :
    UsedSegment.ofSegments language (segments ++ [outputSegment output])
      = UsedSegment.ofSegments language segments ++ [⟨.output, outputSegment output⟩] := by
  rw [UsedSegment.ofSegments_append, UsedSegment.ofSegments, use_outputSegment,
    UsedSegment.ofSegments]

/-- Beside a source that is read as one, a replay has no other input. -/
theorem use_replaySegments (hflags : ∀ s ∈ flags, s.isCompileFlag = true)
    (hbefore : ∀ s ∈ before, IsMode s) (hafter : ∀ s ∈ after, IsMode s)
    (hsource : Use.ofArgument (languageThrough none flags) source.text = .source) :
    ∀ u ∈ UsedSegment.ofSegments none (replaySegments flags before source after output),
      u.use ≠ .assembly ∧ u.use ≠ .linkInput := by
  have hflag : ∀ s ∈ flags, ∀ language, Use.ofArgument language s.head ≠ .assembly
      ∧ Use.ofArgument language s.head ≠ .linkInput := by
    intro s hs language
    rcases (isCompileFlag_iff language s).1 (hflags s hs) with h | h <;> simp [h]
  have hmode : ∀ {modes : List Segment}, (∀ s ∈ modes, IsMode s) → ∀ s ∈ modes, ∀ language,
      Use.ofArgument language s.head ≠ .assembly
        ∧ Use.ofArgument language s.head ≠ .linkInput := by
    intro modes hmodes s hs language
    rcases (hmodes s hs).use language with h | h <;> simp [h]
  unfold replaySegments
  rw [UsedSegment.ofSegments_append, UsedSegment.ofSegments_append, languageThrough_modes hbefore,
    UsedSegment.ofSegments, ofSegments_outputSegment, List.forall_mem_append,
    List.forall_mem_append, List.forall_mem_cons, List.forall_mem_append,
    List.forall_mem_singleton, hsource]
  have hall : ∀ {segments : List Segment}, (∀ s ∈ segments, ∀ language,
      Use.ofArgument language s.head ≠ .assembly ∧ Use.ofArgument language s.head ≠ .linkInput) →
      ∀ language, ∀ u ∈ UsedSegment.ofSegments language segments,
        u.use ≠ .assembly ∧ u.use ≠ .linkInput :=
    UsedSegment.forall_use fun use => use ≠ .assembly ∧ use ≠ .linkInput
  exact ⟨hall hflag _, hall (hmode hbefore) _, by simp, hall (hmode hafter) _, by simp⟩

/-! ## Faithful replays -/

/-- **A command line that replays a source**: the source is its only one and is read in the given
language, no other input is there, and the compile stops before the link with the given output. -/
structure ReplaysAs (arguments : List Octets) (source : Path) (language : Option Octets)
    (output : Path) : Prop where
  sources : (Invocation.ofArguments arguments).sources = [source]
  readings : Invocation.readings arguments = [(source, language)]
  inputs : ∀ u ∈ UsedSegment.ofArguments arguments, u.use ≠ .assembly ∧ u.use ≠ .linkInput
  compilesOnly : (Invocation.ofArguments arguments).compilesOnly = true
  output : (Invocation.ofArguments arguments).output = some output

/-- A replay is faithful exactly if its flags leave the language of the source in force. -/
theorem replaysAs_replaySegments {language : Option Octets}
    (hflags : ∀ s ∈ flags, s.isCompileFlag = true) (hcomplete : ∀ s ∈ flags, s.Complete)
    (hbefore : ∀ s ∈ before, IsMode s) (hafter : ∀ s ∈ after, IsMode s)
    (hstop : stopSegment ∈ before ++ after) (hhyphen : source.text.head? ≠ some Octets.hyphen)
    (hsource : Use.ofArgument language source.text = .source) :
    ReplaysAs ((replaySegments flags before source after output).flatMap words) source language
        output
      ↔ language = languageThrough none flags := by
  have hcut := cut_replaySegments output hcomplete hbefore hafter hhyphen
  have hreadings := readings_replaySegments output hflags hbefore hafter hhyphen
  constructor
  · intro h
    have hread := h.readings
    unfold Invocation.readings at hread
    rw [hcut, hreadings] at hread
    split at hread
    · simpa using hread.symm
    · cases hread
  · rintro rfl
    rw [if_pos hsource] at hreadings
    have hread : Invocation.readings
        ((replaySegments flags before source after output).flatMap words)
        = [(source, languageThrough none flags)] := by
      rw [Invocation.readings, hcut, hreadings]
    refine ⟨?_, hread, ?_, ?_, ?_⟩
    · rw [← Invocation.map_fst_readings, hread]
      rfl
    · rw [UsedSegment.ofArguments, hcut]
      exact use_replaySegments output hflags hbefore hafter hsource
    · show (UsedSegment.ofArguments _).any _ = true
      rw [UsedSegment.ofArguments, hcut, List.any_eq_true]
      have hmem : stopSegment ∈ replaySegments flags before source after output := by
        unfold replaySegments
        rw [List.mem_append] at hstop
        rcases hstop with hstop | hstop <;> simp [hstop]
      exact ⟨_, UsedSegment.mem_ofSegments hmem use_stopSegment none, rfl⟩
    · show ((UsedSegment.ofArguments _).filterMap UsedSegment.output?).getLast?.join = _
      -- the last output segment counts, and that of the replay is the last of all
      have hlast : replaySegments flags before source after output
          = (flags ++ (before ++ ⟨source.text, none⟩ :: after)) ++ [outputSegment output] := by
        simp [replaySegments]
      rw [UsedSegment.ofArguments, hcut, hlast, ofSegments_outputSegment, List.filterMap_append]
      exact congrArg Option.join (List.getLast?_concat ..)

/-! ## The commands of a replay -/

section Commands

variable {arguments : List Octets} (r : Recipe)

/-- The flags of the compile step on a command line. -/
def compileFlags (arguments : List Octets) : List Segment :=
  (cut arguments).filter Segment.isCompileFlag

theorem arguments_objectCommand (source object : Path) :
    (r.objectCommand (.ofArguments arguments) source object).arguments
      = (replaySegments (compileFlags arguments) [] source [stopSegment] object).flatMap words := by
  unfold Recipe.objectCommand replaySegments
  rw [Invocation.compileArguments_ofArguments, List.flatMap_append]
  rfl

theorem arguments_bitcodeCommand (h : r.bitcodeFlags = []) (source bitcode : Path) :
    (r.bitcodeCommand (.ofArguments arguments) source bitcode).arguments
      = (replaySegments (compileFlags arguments) [emitSegment, stopSegment] source []
          bitcode).flatMap words := by
  unfold Recipe.bitcodeCommand replaySegments
  rw [Invocation.compileArguments_ofArguments, h, List.append_nil, List.flatMap_append]
  rfl

/-- **When a replay is faithful.** Each source is replayed as it was given, to its object and to
its bitcode, exactly if the language in force where it stands is the one in force at the end of the
command line. -/
theorem replaysAs_iff (hdangles : Segment.dangles arguments = false)
    (hbitcodeFlags : r.bitcodeFlags = []) {index : Nat} {source : Path}
    (hsource : (Invocation.ofArguments arguments).sources[index]? = some source)
    (object bitcode : Path) :
    ∃ language, (Invocation.readings arguments)[index]? = some (source, language)
      ∧ (ReplaysAs (r.objectCommand (.ofArguments arguments) source object).arguments source
          language object
        ↔ language = Invocation.finalLanguage arguments)
      ∧ (ReplaysAs (r.bitcodeCommand (.ofArguments arguments) source bitcode).arguments source
          language bitcode
        ↔ language = Invocation.finalLanguage arguments) := by
  rw [← Invocation.map_fst_readings, List.getElem?_map, Option.map_eq_some_iff] at hsource
  rcases hsource with ⟨⟨_, language⟩, hreading, rfl⟩
  have huse := use_of_mem_readings (List.mem_of_getElem? hreading)
  have hhyphen := Use.head_of_source huse
  have hflags : ∀ s ∈ compileFlags arguments, s.isCompileFlag = true :=
    fun s hs => (List.mem_filter.1 hs).2
  have hcomplete : ∀ s ∈ compileFlags arguments, s.Complete :=
    fun s hs => complete_of_mem_cut hdangles s (List.mem_filter.1 hs).1
  have hmodes : ∀ s ∈ [emitSegment, stopSegment], IsMode s := by
    simp [IsMode]
  have hfinal : languageThrough none (compileFlags arguments)
      = Invocation.finalLanguage arguments := languageThrough_filter none (cut arguments)
  refine ⟨language, hreading, ?_, ?_⟩
  · rw [arguments_objectCommand, ← hfinal]
    apply replaysAs_replaySegments object hflags hcomplete _ _ _ hhyphen huse
    · simp
    · simp [IsMode]
    · simp
  · rw [arguments_bitcodeCommand r hbitcodeFlags, ← hfinal]
    apply replaysAs_replaySegments bitcode hflags hcomplete hmodes _ _ hhyphen huse
    · simp
    · simp

/-- A command line on which one source is C by a flag and the next by its name. -/
def twoLanguages : List Octets := Flags.table ["-x", "c", "a.txt", "-x", "none", "b.c"]

/-- The last source is replayed as it was given. -/
theorem replaysAs_last_source :
    ReplaysAs
      ((Recipe.mk (.ofString "/cc") []).objectCommand (.ofArguments twoLanguages)
        (.ofString "b.c") (.ofString "/tmp/.b.1.o")).arguments
      (.ofString "b.c") none (.ofString "/tmp/.b.1.o") := by
  have hsource : (Invocation.ofArguments twoLanguages).sources[1]? = some (.ofString "b.c") := by
    decide +kernel
  have hreading : (Invocation.readings twoLanguages)[1]? = some (.ofString "b.c", none) := by
    decide +kernel
  rcases replaysAs_iff (Recipe.mk (.ofString "/cc") []) (by decide +kernel) rfl hsource
    (.ofString "/tmp/.b.1.o") (.ofString ".b.o.bc") with ⟨language, hlanguage, hobject, -⟩
  rw [hreading] at hlanguage
  cases hlanguage
  exact hobject.2 (by decide +kernel)

/-- **A source that is lost in its replay.** The command line is complete and not bypassed, and it
has the first source read as C. The commands that replay this source read it as nothing but an
input of the linker. -/
theorem first_source_lost :
    (Invocation.ofArguments twoLanguages).bypass? false = none
    ∧ Segment.dangles twoLanguages = false
    ∧ (Invocation.readings twoLanguages)[0]?
      = some (.ofString "a.txt", some (Octets.ofString "c"))
    ∧ (let object := (Recipe.mk (.ofString "/cc") []).objectCommand (.ofArguments twoLanguages)
        (.ofString "a.txt") (.ofString "/tmp/.a.0.o")
      let bitcode := (Recipe.mk (.ofString "/cc") []).bitcodeCommand (.ofArguments twoLanguages)
        (.ofString "a.txt") (.ofString ".a.o.bc")
      (Invocation.ofArguments object.arguments).sources = []
      ∧ (Invocation.ofArguments object.arguments).linkArguments = [Octets.ofString "a.txt"]
      ∧ (Invocation.ofArguments bitcode.arguments).sources = []
      ∧ ¬ ReplaysAs object.arguments (.ofString "a.txt") (some (Octets.ofString "c"))
        (.ofString "/tmp/.a.0.o")) := by
  refine ⟨by decide +kernel, by decide +kernel, by decide +kernel, by decide +kernel,
    by decide +kernel, by decide +kernel, fun h => ?_⟩
  exact absurd h.sources (by decide +kernel)

end Commands

end Replay

end TwinBuild
