import TwinBuild.Proofs.Conservation
import TwinBuild.Replay

/-!
# Command lines that are read again

What an invocation passes on is itself a command line: the flags of a replay, the arguments of a
link, and the native compile, which is given everything but the forbidden flags. The first two are
read again as what they were taken for. The third is, too, unless an operand has the text of a
forbidden flag: such an operand is removed with the flag, and its own flag takes what comes next.

Main statements: `Invocation.arguments_read_again`, `Invocation.native_read_again`.
-/

namespace TwinBuild

namespace Segment

/-- What goes on after segments: the first word is the operand of the last segment if that one lacks
it, and all else is cut by itself. -/
theorem IsCut.cut_append {segments : List Segment} (h : IsCut segments) (rest : List Octets) :
    ∃ kept, kept.map Segment.head = segments.map Segment.head
      ∧ cut (segments.flatMap words ++ rest)
        = kept ++ cut (rest.drop (if dangles (segments.flatMap words) then 1 else 0)) := by
  have hdangles : dangles (segments.flatMap words)
      = segments.getLast?.any fun s => Flags.takesOperand.contains s.head && s.operand.isNone := by
    rw [dangles, h.cut_flatMap_words]
  rw [hdangles]
  rcases List.eq_nil_or_concat segments with rfl | ⟨before, last, rfl⟩
  · exact ⟨[], rfl, rfl⟩
  rw [List.concat_eq_append] at h ⊢
  rw [List.getLast?_concat, List.flatMap_append, List.append_assoc,
    Segment.cut_flatMap_words h.complete_of_append, List.flatMap_singleton, Option.any_some]
  by_cases hlast : last.Complete
  · -- nothing is missing, so `rest` is cut by itself
    have hwhole : (Flags.takesOperand.contains last.head && last.operand.isNone) = false := by
      rw [← show last.operand.isSome = _ from hlast]
      cases last.operand <;> rfl
    rw [cut_words_append hlast, hwhole]
    exact ⟨before ++ [last], rfl, by simp⟩
  · rcases last with ⟨head, _ | operand⟩
    · have htakes : Flags.takesOperand.contains head = true := by
        cases hhead : Flags.takesOperand.contains head with
        | true => rfl
        | false => exact absurd hhead.symm hlast
      rw [htakes]
      cases rest with
      | nil => exact ⟨before ++ [⟨head, none⟩], rfl, by simp [words, cut]⟩
      | cons operand rest =>
          refine ⟨before ++ [⟨head, some operand⟩], by simp, ?_⟩
          show before ++ cut (head :: operand :: rest) = _
          rw [cut, if_pos htakes]
          simp
    · exact absurd (h.takes _ (by simp) rfl).symm hlast

end Segment

namespace Use

/-- What goes to the link step is used so without a language, too. -/
theorem ofArgument_none_of_link {language : Option Octets} {argument : Octets}
    (h : Destination.link ∈ (ofArgument language argument).destinations) :
    ofArgument none argument = ofArgument language argument := by
  rcases ofArgument_cases argument with hflag | ⟨-, hinput⟩
  · exact (hflag language).symm
  · rw [hinput] at h
    rw [hinput, hinput]
    -- under a language, an input is a source or assembly
    cases language with
    | none => rfl
    | some name =>
        have hread : ofInput (some name) argument
            = if Flags.assemblyLanguages.contains name then .assembly else .source := rfl
        rw [hread] at h
        split at h <;> simp [destinations] at h

end Use

namespace UsedSegment

open Segment

/-- The segments of a command line that go to a list. -/
def keptFor (d : Destination) (arguments : List Octets) : List UsedSegment :=
  (ofArguments arguments).filter fun u => d ∈ u.use.destinations

theorem flatMap_filter {α β : Type} (p : α → Bool) (f : α → List β) (xs : List α) :
    (xs.filter p).flatMap f = xs.flatMap fun x => if p x then f x else [] := by
  induction xs with
  | nil => rfl
  | cons x xs ih =>
      rw [List.filter_cons, List.flatMap_cons, ← ih]
      split <;> rfl

/-- The words of a list are those of its segments. -/
theorem wordsAt_eq (d : Destination) (arguments : List Octets) :
    (Invocation.ofArguments arguments).wordsAt d
      = ((keptFor d arguments).map UsedSegment.segment).flatMap words := by
  rw [Invocation.wordsAt_ofArguments, List.flatMap_map, keptFor, flatMap_filter]
  congr 1
  funext u
  simp [wordsFor]

theorem cut_wordsAt (d : Destination) (arguments : List Octets) :
    cut ((Invocation.ofArguments arguments).wordsAt d)
      = (keptFor d arguments).map UsedSegment.segment := by
  rw [wordsAt_eq]
  apply IsCut.cut_flatMap_words
  apply (isCut_cut arguments).sublist
  rw [← map_segment_ofSegments none (cut arguments)]
  exact List.filter_sublist.map _

/-- The use of a kept segment, by the language where it stands. -/
theorem use_of_mem {arguments : List Octets} {u : UsedSegment} (h : u ∈ ofArguments arguments) :
    ∃ language, Use.ofArgument language u.segment.head = u.use := by
  rcases List.getElem?_of_mem h with ⟨n, hn⟩
  rw [ofArguments, getElem?_ofSegments, Option.map_eq_some_iff] at hn
  rcases hn with ⟨s, -, rfl⟩
  exact ⟨_, rfl⟩

/-- Segments that are used as they were wherever they are read again, in a language that they
leave in force. -/
theorem ofSegments_of_reads {P : Option Octets → Prop} {kept : List UsedSegment}
    (huse : ∀ u ∈ kept, ∀ language, P language → Use.ofArgument language u.segment.head = u.use)
    (hstays : ∀ u ∈ kept, ∀ language, P language → P (u.segment.languageAfter language))
    {language : Option Octets} (h : P language) :
    ofSegments language (kept.map UsedSegment.segment) = kept := by
  induction kept generalizing language with
  | nil => rfl
  | cons u kept ih =>
      rw [List.forall_mem_cons] at huse hstays
      rw [List.map_cons, ofSegments, huse.1 language h, ih huse.2 hstays.2 (hstays.1 language h)]

/-- **The flags of the compile step are read again as such.** They are flags under any language. -/
theorem ofArguments_compileArguments (arguments : List Octets) :
    ofArguments (Invocation.ofArguments arguments).compileArguments
      = keptFor .compile arguments := by
  show ofSegments none (cut ((Invocation.ofArguments arguments).wordsAt .compile)) = _
  rw [cut_wordsAt]
  refine ofSegments_of_reads (P := fun _ => True) ?_ (fun _ _ _ _ => trivial) trivial
  intro u hu language _
  rw [keptFor, List.mem_filter, decide_eq_true_iff] at hu
  rcases use_of_mem hu.1 with ⟨before, hbefore⟩
  rcases Use.ofArgument_cases u.segment.head with hflag | ⟨-, hinput⟩
  · rw [hflag language, ← hflag before, hbefore]
  · -- an input has no part in the compile step
    have hnone := hu.2
    rw [← hbefore, hinput] at hnone
    rcases Use.ofInput_cases before u.segment.head with h | h | h <;> rw [h] at hnone <;>
      exact absurd hnone (by decide)

/-- **The arguments of the link step are read again as such.** No language is set among them. -/
theorem ofArguments_linkArguments (arguments : List Octets) :
    ofArguments (Invocation.ofArguments arguments).linkArguments = keptFor .link arguments := by
  show ofSegments none (cut ((Invocation.ofArguments arguments).wordsAt .link)) = _
  rw [cut_wordsAt]
  have hkept : ∀ u ∈ keptFor .link arguments,
      Use.ofArgument none u.segment.head = u.use ∧ u.segment.head ≠ Flags.language := by
    intro u hu
    rw [keptFor, List.mem_filter, decide_eq_true_iff] at hu
    rcases use_of_mem hu.1 with ⟨before, hbefore⟩
    have hlink := hu.2
    rw [← hbefore] at hlink ⊢
    have hnone := Use.ofArgument_none_of_link hlink
    refine ⟨hnone, fun hlanguage => ?_⟩
    rw [← hnone, hlanguage] at hlink
    exact absurd hlink (by decide +kernel)
  refine ofSegments_of_reads (P := fun language => language = none) ?_ ?_ rfl
  · rintro u hu _ rfl
    exact (hkept u hu).1
  · rintro u hu _ rfl
    rw [languageAfter, if_neg (hkept u hu).2]

end UsedSegment

namespace Invocation

open Segment UsedSegment

/-- The words of the flags of both steps, in order. -/
def sharedArguments (arguments : List Octets) : List Octets :=
  ((UsedSegment.ofArguments arguments).filter fun u => u.use = .shared).flatMap
    fun u => u.segment.words

/-- An invocation of nothing but flags and arguments of the two steps. -/
theorem ofUsedSegments_of_steps {kept : List UsedSegment}
    (h : ∀ u ∈ kept, u.use ∈ [Use.compile, .shared, .link, .linkInput]) (arguments : List Octets) :
    ofUsedSegments arguments kept
      = { arguments := arguments
          compileArguments := kept.flatMap compileWords
          linkArguments := kept.flatMap linkWords } := by
  have hnot : ∀ use ∉ [Use.compile, .shared, .link, .linkInput], ∀ u ∈ kept, u.use ≠ use := by
    rintro use huse u hu rfl
    exact huse (h u hu)
  have hany : ∀ use ∉ [Use.compile, .shared, .link, .linkInput],
      kept.any (·.use == use) = false := by
    intro use huse
    rw [List.any_eq_false]
    intro u hu
    simpa using hnot use huse u hu
  have hsource : kept.filterMap source? = [] :=
    List.filterMap_eq_nil_iff.2 fun u hu => if_neg (hnot .source (by decide) u hu)
  have hforbidden : kept.filterMap forbidden? = [] :=
    List.filterMap_eq_nil_iff.2 fun u hu => if_neg (hnot .forbidden (by decide) u hu)
  have houtput : kept.filterMap output? = [] :=
    List.filterMap_eq_nil_iff.2 fun u hu => if_neg (hnot .output (by decide) u hu)
  rw [ofUsedSegments, hsource, hforbidden, houtput, hany .compileOnly (by decide),
    hany .print (by decide), hany .preprocess (by decide), hany .assemble (by decide),
    hany .emitBitcode (by decide), hany .dependencies (by decide), hany .assembly (by decide),
    hany .standardInput (by decide)]
  rfl

/-- What the segments of a list give, by what each segment of the command line gives. -/
theorem flatMap_keptFor {d : Destination} {f g : UsedSegment → List Octets}
    (h : ∀ u, (if d ∈ u.use.destinations then f u else []) = g u) (arguments : List Octets) :
    (keptFor d arguments).flatMap f = (UsedSegment.ofArguments arguments).flatMap g := by
  rw [keptFor, flatMap_filter]
  congr 1
  funext u
  rw [← h u]
  simp

theorem sharedArguments_eq (arguments : List Octets) :
    sharedArguments arguments = (UsedSegment.ofArguments arguments).flatMap
      fun u => if u.use = .shared then u.segment.words else [] := by
  rw [sharedArguments, flatMap_filter]
  simp

/-- What the segments of the compile step give to each of the two steps. -/
theorem flatMap_keptFor_compile (arguments : List Octets) :
    (keptFor .compile arguments).flatMap compileWords = (ofArguments arguments).compileArguments
    ∧ (keptFor .compile arguments).flatMap linkWords = sharedArguments arguments := by
  rw [sharedArguments_eq]
  constructor
  · refine flatMap_keptFor (fun u => ?_) arguments
    unfold compileWords
    cases u.use <;> rfl
  · refine flatMap_keptFor (fun u => ?_) arguments
    unfold linkWords
    cases u.use <;> rfl

/-- What the segments of the link step give to each of the two steps. -/
theorem flatMap_keptFor_link (arguments : List Octets) :
    (keptFor .link arguments).flatMap linkWords = (ofArguments arguments).linkArguments
    ∧ (keptFor .link arguments).flatMap compileWords = sharedArguments arguments := by
  rw [sharedArguments_eq]
  constructor
  · refine flatMap_keptFor (fun u => ?_) arguments
    unfold linkWords
    cases u.use <;> rfl
  · refine flatMap_keptFor (fun u => ?_) arguments
    unfold compileWords
    cases u.use <;> rfl

/-- What a command line is read as that begins with the flags of another's compile step: flags of
this step, and then its own words by themselves. If the last flag lacks an operand, it takes the
first of them. -/
def ReadsAfterFlags (flags own arguments : List Octets) : Prop :=
  arguments = flags ++ own
  ∧ ∃ kept language,
    UsedSegment.ofArguments arguments
      = kept ++ UsedSegment.ofSegments language (cut (own.drop (if dangles flags then 1 else 0)))
    ∧ ∀ u ∈ kept, u.use = .compile ∨ u.use = .shared

theorem use_of_mem_keptFor {arguments : List Octets} {u : UsedSegment} :
    (u ∈ keptFor .compile arguments → u.use = .compile ∨ u.use = .shared)
    ∧ (u ∈ keptFor .link arguments → u.use = .link ∨ u.use = .shared ∨ u.use = .linkInput) := by
  simp only [keptFor, List.mem_filter, decide_eq_true_eq]
  constructor <;>
    · rintro ⟨-, h⟩
      revert h
      cases u.use <;> decide

theorem readsAfterFlags (arguments own : List Octets) :
    ReadsAfterFlags (ofArguments arguments).compileArguments own
      ((ofArguments arguments).compileArguments ++ own) := by
  have hflags : (ofArguments arguments).compileArguments
      = ((cut arguments).filter isCompileFlag).flatMap words :=
    flatMap_compileWords none (cut arguments)
  rcases ((isCut_cut arguments).sublist (List.filter_sublist (p := isCompileFlag))).cut_append own
    with ⟨kept, hheads, hkept⟩
  rw [hflags]
  refine ⟨rfl, UsedSegment.ofSegments none kept, languageThrough none kept, ?_, ?_⟩
  · rw [← ofSegments_append, ← hkept]
    rfl
  · -- a flag is used as before, whatever operand it has been given
    refine forall_use (fun use => use = .compile ∨ use = .shared) (fun s hs language => ?_) none
    have hhead : s.head ∈ ((cut arguments).filter isCompileFlag).map Segment.head := by
      rw [← hheads]
      exact List.mem_map_of_mem hs
    rcases List.mem_map.1 hhead with ⟨flag, hflag, heq⟩
    rw [← heq]
    exact (isCompileFlag_iff language flag).1 (List.mem_filter.1 hflag).2

/-- **The flags of a replay and the arguments of a link are read again as such.** Nothing among them
is a source, an output, a mode, a forbidden flag or a flag of dependency files; the flags of both
steps are what each has for the other; and the commands of a replay add to them only words of their
own. -/
theorem arguments_read_again (arguments : List Octets) :
    ofArguments (ofArguments arguments).compileArguments
      = { arguments := (ofArguments arguments).compileArguments
          compileArguments := (ofArguments arguments).compileArguments
          linkArguments := sharedArguments arguments }
    ∧ ofArguments (ofArguments arguments).linkArguments
      = { arguments := (ofArguments arguments).linkArguments
          compileArguments := sharedArguments arguments
          linkArguments := (ofArguments arguments).linkArguments }
    ∧ (∀ u ∈ UsedSegment.ofArguments (ofArguments arguments).compileArguments,
      u.use = .compile ∨ u.use = .shared)
    ∧ (∀ u ∈ UsedSegment.ofArguments (ofArguments arguments).linkArguments,
      u.use = .link ∨ u.use = .shared ∨ u.use = .linkInput)
    ∧ ∀ (r : Replay.Recipe) (source output : Path),
      ReadsAfterFlags (ofArguments arguments).compileArguments
        [source.text, Flags.compileOnly, Flags.output, output.text]
        (r.objectCommand (ofArguments arguments) source output).arguments
      ∧ ReadsAfterFlags (ofArguments arguments).compileArguments
        (r.bitcodeFlags
          ++ [Flags.emitBitcode, Flags.compileOnly, source.text, Flags.output, output.text])
        (r.bitcodeCommand (ofArguments arguments) source output).arguments := by
  have hcompile : ∀ u ∈ keptFor .compile arguments, u.use = .compile ∨ u.use = .shared :=
    fun u => use_of_mem_keptFor.1
  have hlink : ∀ u ∈ keptFor .link arguments,
      u.use = .link ∨ u.use = .shared ∨ u.use = .linkInput := fun u => use_of_mem_keptFor.2
  refine ⟨?_, ?_, ?_, ?_, fun r source output => ⟨readsAfterFlags arguments _, ?_⟩⟩
  · have hsteps : ∀ u ∈ keptFor .compile arguments,
        u.use ∈ [Use.compile, .shared, .link, .linkInput] := by
      intro u hu
      rcases hcompile u hu with h | h <;> simp [h]
    show ofUsedSegments _ (UsedSegment.ofArguments _) = _
    rw [ofArguments_compileArguments, ofUsedSegments_of_steps hsteps,
      (flatMap_keptFor_compile arguments).1, (flatMap_keptFor_compile arguments).2]
  · have hsteps : ∀ u ∈ keptFor .link arguments,
        u.use ∈ [Use.compile, .shared, .link, .linkInput] := by
      intro u hu
      rcases hlink u hu with h | h | h <;> simp [h]
    show ofUsedSegments _ (UsedSegment.ofArguments _) = _
    rw [ofArguments_linkArguments, ofUsedSegments_of_steps hsteps,
      (flatMap_keptFor_link arguments).1, (flatMap_keptFor_link arguments).2]
  · rw [ofArguments_compileArguments]
    exact hcompile
  · rw [ofArguments_linkArguments]
    exact hlink
  · rw [Replay.Recipe.bitcodeCommand, List.append_assoc]
    exact readsAfterFlags arguments _

/-! ## The native compile -/

/-- Whether a segment is a forbidden flag, by its text. -/
def isForbidden (s : Segment) : Bool :=
  (FlagSet.mk Flags.forbidden Flags.forbiddenBeginnings).contains s.head

theorem use_eq_forbidden_iff (language : Option Octets) (s : Segment) :
    Use.ofArgument language s.head = .forbidden ↔ isForbidden s = true := by
  have hset : FlagSet.mk Flags.forbidden Flags.forbiddenBeginnings = Flags.listed .forbidden := by
    decide +kernel
  unfold isForbidden
  rw [hset]
  exact Use.ofArgument_eq_iff_listed (by decide) language s.head

/-- No operand has the text of a forbidden flag that stands on the command line. -/
def KeepsOperands (arguments : List Octets) : Prop :=
  ∀ s ∈ cut arguments, ∀ operand ∈ s.operand, operand ∉ (ofArguments arguments).forbidden

instance (arguments : List Octets) : Decidable (KeepsOperands arguments) :=
  inferInstanceAs (Decidable (∀ s ∈ _, ∀ operand ∈ _, _))

/-- The forbidden flags of a command line are the heads of its forbidden segments. -/
theorem forbidden_ofArguments (arguments : List Octets) :
    (ofArguments arguments).forbidden = ((cut arguments).filter isForbidden).map Segment.head := by
  show (UsedSegment.ofSegments none (cut arguments)).filterMap forbidden? = _
  generalize none = language
  induction cut arguments generalizing language with
  | nil => rfl
  | cons s segments ih =>
      have huse := use_eq_forbidden_iff language s
      rw [UsedSegment.ofSegments, List.filterMap_cons, forbidden?, ih]
      by_cases h : isForbidden s = true
      · rw [List.filter_cons_of_pos h, if_pos (huse.2 h)]
        rfl
      · rw [List.filter_cons_of_neg h, if_neg (fun hout => h (huse.1 hout))]

/-- A head is one of the forbidden flags exactly if its segment is forbidden. -/
theorem head_mem_forbidden_iff {arguments : List Octets} {s : Segment} (h : s ∈ cut arguments) :
    s.head ∈ (ofArguments arguments).forbidden ↔ isForbidden s = true := by
  rw [forbidden_ofArguments]
  constructor
  · intro hhead
    rcases List.mem_map.1 hhead with ⟨flag, hflag, heq⟩
    have hforbidden := (List.mem_filter.1 hflag).2
    unfold isForbidden at hforbidden ⊢
    rwa [← heq]
  · intro hforbidden
    exact List.mem_map_of_mem (List.mem_filter.2 ⟨h, hforbidden⟩)

/-- A forbidden flag is a single word. -/
theorem operand_of_forbidden {arguments : List Octets} {s : Segment} (h : s ∈ cut arguments)
    (hforbidden : isForbidden s = true) : s.operand = none := by
  cases hoperand : s.operand with
  | none => rfl
  | some operand =>
      have htakes := (isCut_cut arguments).takes s h (by rw [hoperand]; rfl)
      have huse := use_of_takesOperand htakes none
      rw [(use_eq_forbidden_iff none s).2 hforbidden] at huse
      simp at huse

/-- The segments that the native compile is meant to get. -/
def nativeSegments (arguments : List Octets) : List Segment :=
  (cut arguments).filter fun s => !isForbidden s

theorem nativeArguments_of_keepsOperands {arguments : List Octets} (h : KeepsOperands arguments) :
    (ofArguments arguments).nativeArguments = (nativeSegments arguments).flatMap words := by
  have hcut : (ofArguments arguments).nativeArguments
      = ((cut arguments).flatMap words).filter
        fun a => !(ofArguments arguments).forbidden.contains a := by
    rw [words_cut]
    rfl
  rw [hcut, List.filter_flatMap, nativeSegments, flatMap_filter]
  apply List.flatMap_congr
  intro s hs
  have hhead := head_mem_forbidden_iff hs
  by_cases hforbidden : isForbidden s = true
  · -- nothing is left of a forbidden flag, which is a single word
    rw [words, operand_of_forbidden hs hforbidden, List.filter_cons_of_neg]
    · simp [hforbidden]
    · simp [hhead.2 hforbidden]
  · rw [if_pos (by simp [hforbidden]), List.filter_eq_self]
    intro word hword
    rcases List.mem_cons.1 hword with rfl | hoperand
    · simpa using fun hmem => hforbidden (hhead.1 hmem)
    · simpa using h s hs word (Option.mem_toList.1 hoperand)

/-- **When each operand stays with its flag.** The native compile is cut into the segments that are
not forbidden exactly if no operand has the text of a forbidden flag on the command line. -/
theorem cut_nativeArguments_iff (arguments : List Octets) :
    cut (ofArguments arguments).nativeArguments = nativeSegments arguments
      ↔ KeepsOperands arguments := by
  constructor
  · intro hcut s hs operand hoperand hforbidden
    -- the operand would be left by the cut and is removed by its text
    have hkept : s ∈ nativeSegments arguments := by
      refine List.mem_filter.2 ⟨hs, ?_⟩
      rw [Bool.not_eq_true']
      refine Bool.eq_false_iff.2 fun hflag => ?_
      rw [operand_of_forbidden hs hflag] at hoperand
      cases hoperand
    have hword : operand ∈ (ofArguments arguments).nativeArguments := by
      rw [← words_cut (ofArguments arguments).nativeArguments, hcut, List.mem_flatMap]
      exact ⟨s, hkept, List.mem_cons_of_mem _ (Option.mem_toList.2 hoperand)⟩
    have hleft := (List.mem_filter.1 hword).2
    simp [hforbidden] at hleft
  · intro h
    rw [nativeArguments_of_keepsOperands h]
    exact ((isCut_cut arguments).sublist List.filter_sublist).cut_flatMap_words

/-- Forbidden flags set no language, so the segments between them are used as before. -/
theorem ofSegments_nativeSegments (arguments : List Octets) :
    UsedSegment.ofSegments none (nativeSegments arguments)
      = (UsedSegment.ofArguments arguments).filter fun u => u.use ≠ .forbidden := by
  unfold nativeSegments UsedSegment.ofArguments
  generalize none = language
  induction cut arguments generalizing language with
  | nil => rfl
  | cons s segments ih =>
      have huse := use_eq_forbidden_iff language s
      rw [UsedSegment.ofSegments]
      by_cases h : isForbidden s = true
      · have hlanguage : s.languageAfter language = language := by
          rw [languageAfter, if_neg]
          intro heq
          rw [isForbidden, heq] at h
          exact absurd h (by decide +kernel)
        rw [List.filter_cons_of_neg (by simp [h]), List.filter_cons_of_neg, ih, hlanguage]
        simpa using huse.2 h
      · rw [List.filter_cons_of_pos (by simp [h]), List.filter_cons_of_pos, UsedSegment.ofSegments,
          ih]
        simpa using fun heq => h (huse.1 heq)

section Allowed

variable (segments : List UsedSegment)

/-- What a forbidden flag has no part in is the same without the forbidden flags. -/
theorem flatMap_allowed {α : Type} {f : UsedSegment → List α}
    (h : ∀ u, u.use = .forbidden → f u = []) :
    (segments.filter fun u => u.use ≠ .forbidden).flatMap f = segments.flatMap f := by
  rw [flatMap_filter]
  congr 1
  funext u
  by_cases hu : u.use = .forbidden
  · rw [h u hu, ite_self]
  · rw [if_pos (decide_eq_true hu)]

theorem filterMap_allowed {α : Type} {f : UsedSegment → Option α}
    (h : ∀ u, u.use = .forbidden → f u = none) :
    (segments.filter fun u => u.use ≠ .forbidden).filterMap f = segments.filterMap f := by
  rw [List.filterMap_eq_flatMap_toList, List.filterMap_eq_flatMap_toList]
  apply flatMap_allowed
  intro u hu
  rw [h u hu, Option.toList_none]

theorem any_allowed {use : Use} (h : use ≠ .forbidden) :
    (segments.filter fun u => u.use ≠ .forbidden).any (·.use == use)
      = segments.any (·.use == use) := by
  rw [List.any_filter]
  congr 1
  funext u
  by_cases hu : u.use = use <;> simp [hu, h]

/-- Segments less the forbidden ones amount to the same but for the forbidden flags. -/
theorem ofUsedSegments_of_allowed (arguments native : List Octets) :
    ofUsedSegments native (segments.filter fun u => u.use ≠ .forbidden)
      = { ofUsedSegments arguments segments with arguments := native, forbidden := [] } := by
  have hother : ∀ use ≠ Use.forbidden, ∀ u : UsedSegment, u.use = .forbidden → u.use ≠ use := by
    rintro use huse u hu rfl
    exact huse hu
  have hsource := filterMap_allowed segments (f := source?)
    fun u hu => if_neg (hother .source (by decide) u hu)
  have houtput := filterMap_allowed segments (f := output?)
    fun u hu => if_neg (hother .output (by decide) u hu)
  have hcompile : (segments.filter fun u => u.use ≠ .forbidden).flatMap compileWords
      = segments.flatMap compileWords := by
    refine flatMap_allowed segments fun u hu => ?_
    rw [compileWords, hu]
    rfl
  have hlink : (segments.filter fun u => u.use ≠ .forbidden).flatMap linkWords
      = segments.flatMap linkWords := by
    refine flatMap_allowed segments fun u hu => ?_
    rw [linkWords, hu]
    rfl
  have hforbidden : (segments.filter fun u => u.use ≠ .forbidden).filterMap forbidden? = [] := by
    rw [List.filterMap_eq_nil_iff]
    intro u hu
    exact if_neg (of_decide_eq_true (List.mem_filter.1 hu).2)
  have hany : ∀ use ≠ Use.forbidden, (segments.filter fun u => u.use ≠ .forbidden).any (·.use == use)
      = segments.any (·.use == use) := fun _ huse => any_allowed segments huse
  unfold ofUsedSegments
  rw [hsource, houtput, hforbidden, hcompile, hlink, hany .compileOnly (by decide),
    hany .print (by decide), hany .preprocess (by decide), hany .assemble (by decide),
    hany .emitBitcode (by decide), hany .dependencies (by decide), hany .assembly (by decide),
    hany .standardInput (by decide)]

end Allowed

/-- **What stripping leaves alone.** The operands stay with their flags exactly if none has the text
of a forbidden flag on the command line. Then the native compile is read as the command line was,
less its forbidden flags. -/
theorem native_read_again (arguments : List Octets) :
    (cut (ofArguments arguments).nativeArguments = nativeSegments arguments
      ↔ KeepsOperands arguments)
    ∧ (KeepsOperands arguments →
      ofArguments (ofArguments arguments).nativeArguments
        = { ofArguments arguments with
            arguments := (ofArguments arguments).nativeArguments
            forbidden := [] }) := by
  refine ⟨cut_nativeArguments_iff arguments, fun h => ?_⟩
  show ofUsedSegments _ (UsedSegment.ofSegments none _) = _
  rw [(cut_nativeArguments_iff arguments).2 h, ofSegments_nativeSegments]
  exact ofUsedSegments_of_allowed _ arguments _

/-- An operand that looks like a forbidden flag stays if that flag is not on the command line. -/
theorem native_read_again_other_flag :
    let arguments := Flags.table ["-flto=thin", "-D", "-flto", "a.c", "-o", "a"]
    KeepsOperands arguments
    ∧ (ofArguments (ofArguments arguments).nativeArguments).compileArguments
      = Flags.table ["-D", "-flto"]
    ∧ (ofArguments (ofArguments arguments).nativeArguments).forbidden = [] := by
  have hkeeps : KeepsOperands (Flags.table ["-flto=thin", "-D", "-flto", "a.c", "-o", "a"]) := by
    decide +kernel
  have hread := (native_read_again _).2 hkeeps
  refine ⟨hkeeps, ?_, ?_⟩
  · rw [hread]
    decide +kernel
  · rw [hread]

/-- **An operand that is removed with a flag.** In both command lines the operand `-flto` has the
text of the flag before it. In the native compile of the first, `-D` then takes the source as its
operand; in that of the second, what was an operand is a forbidden flag. -/
theorem operand_removed_as_flag :
    let lost := Flags.table ["-flto", "-D", "-flto", "a.c"]
    let bared := Flags.table ["-flto", "-I", "-flto", "-D", "-flto=thin", "a.c"]
    (ofArguments lost).sources = [.ofString "a.c"]
    ∧ (ofArguments (ofArguments lost).nativeArguments).sources = []
    ∧ (ofArguments bared).forbidden = Flags.table ["-flto"]
    ∧ (ofArguments (ofArguments bared).nativeArguments).forbidden = Flags.table ["-flto=thin"] := by
  decide +kernel

end Invocation

end TwinBuild
