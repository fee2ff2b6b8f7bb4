import TwinBuild.Invocation

/-!
# Command lines that are cut again

A segment is complete if it has an operand exactly where its head takes one. Complete segments
survive being written out: cutting their words gives them back. All segments of a command line are
complete unless it ends in a flag whose operand is missing. The flags of the compile step are flags
whatever language is in force, so they can be told apart without the inputs between them.

Main statements: `cut_flatMap_words`; `cut_eq_iff`, the cut is determined by what segments it may
consist of; and `readings_append`, under which language each source of a command line is read.
-/

namespace TwinBuild

namespace Segment

/-! ## Complete segments -/

/-- A segment that has an operand exactly if its head takes one. -/
def Complete (s : Segment) : Prop := s.operand.isSome = Flags.takesOperand.contains s.head

instance (s : Segment) : Decidable s.Complete := inferInstanceAs (Decidable (_ = _))

/-- Whether a command line ends in a flag that takes an operand and has none. -/
def dangles (arguments : List Octets) : Bool :=
  (cut arguments).getLast?.any fun s => Flags.takesOperand.contains s.head && s.operand.isNone

theorem cut_words_append {s : Segment} (h : s.Complete) (rest : List Octets) :
    cut (s.words ++ rest) = s :: cut rest := by
  rcases s with ⟨head, _ | operand⟩
  · have htakes : Flags.takesOperand.contains head = false := h.symm
    cases rest with
    | nil => rfl
    | cons next rest =>
        show cut (head :: next :: rest) = _
        rw [cut, htakes, if_neg Bool.false_ne_true]
  · have htakes : Flags.takesOperand.contains head = true := h.symm
    show cut (head :: operand :: rest) = _
    rw [cut, htakes, if_pos rfl]

/-- **Writing out and cutting again.** The words of complete segments are cut into these
segments. -/
theorem cut_flatMap_words {segments : List Segment} (h : ∀ s ∈ segments, s.Complete)
    (rest : List Octets) : cut (segments.flatMap words ++ rest) = segments ++ cut rest := by
  induction segments with
  | nil => rfl
  | cons s segments ih =>
      rw [List.forall_mem_cons] at h
      rw [List.flatMap_cons, List.append_assoc, cut_words_append h.1, ih h.2]
      rfl

theorem any_getLast?_of_cons {α : Type} {p : α → Bool} {x : α} {xs : List α}
    (h : (x :: xs).getLast?.any p = false) : xs.getLast?.any p = false := by
  cases xs with
  | nil => rfl
  | cons y ys => rwa [List.getLast?_cons_cons] at h

/-- Unless an operand is missing at its end, a command line is cut into complete segments. -/
theorem complete_of_mem_cut {arguments : List Octets} (h : dangles arguments = false) :
    ∀ s ∈ cut arguments, s.Complete := by
  unfold dangles at h
  -- by the cuts: a segment before the last has its operand because another argument follows
  fun_induction cut arguments with
  | case1 =>
      intro s hs
      cases hs
  | case2 last =>
      intro s hs
      rw [List.mem_singleton] at hs
      subst hs
      show false = _
      simpa using h.symm
  | case3 argument next rest htakes ih =>
      rw [List.forall_mem_cons]
      exact ⟨htakes.symm, ih (any_getLast?_of_cons h)⟩
  | case4 argument next rest htakes ih =>
      rw [List.forall_mem_cons]
      exact ⟨(Bool.eq_false_iff.2 htakes).symm, ih (any_getLast?_of_cons h)⟩

/-! ## What a command line can be cut into -/

/-- Segments that a command line can be cut into: none has an operand that its head does not take,
and only the last may lack the operand that its head takes. -/
structure IsCut (segments : List Segment) : Prop where
  complete : segments.Pairwise fun s _ => s.Complete
  takes : ∀ s ∈ segments, s.operand.isSome = true → Flags.takesOperand.contains s.head = true

namespace IsCut

variable {segments : List Segment}

theorem sublist {kept : List Segment} (h : IsCut segments) (hkept : kept.Sublist segments) :
    IsCut kept :=
  ⟨h.complete.sublist hkept, fun s hs => h.takes s (hkept.subset hs)⟩

theorem cons_iff {s : Segment} :
    IsCut (s :: segments)
      ↔ (segments ≠ [] → s.Complete)
        ∧ (s.operand.isSome = true → Flags.takesOperand.contains s.head = true)
        ∧ IsCut segments := by
  constructor
  · intro h
    refine ⟨fun hne => ?_, h.takes s List.mem_cons_self, h.sublist (List.sublist_cons_self _ _)⟩
    rcases List.exists_mem_of_ne_nil segments hne with ⟨next, hnext⟩
    exact List.rel_of_pairwise_cons h.complete hnext
  · rintro ⟨hs, htakes, h⟩
    refine ⟨List.pairwise_cons.2 ⟨fun next hnext => ?_, h.complete⟩, ?_⟩
    · exact hs (List.ne_nil_of_mem hnext)
    · rw [List.forall_mem_cons]
      exact ⟨htakes, h.takes⟩

/-- All but the last segment are complete. -/
theorem complete_of_append {last : Segment} (h : IsCut (segments ++ [last])) :
    ∀ s ∈ segments, s.Complete := by
  intro s hs
  exact (List.pairwise_append.1 h.complete).2.2 s hs last (List.mem_singleton_self last)

end IsCut

theorem isCut_cut (arguments : List Octets) : IsCut (cut arguments) := by
  fun_induction cut arguments with
  | case1 => exact ⟨List.Pairwise.nil, by simp⟩
  | case2 last => exact ⟨List.pairwise_singleton _ _, by simp⟩
  | case3 argument next rest htakes ih =>
      exact IsCut.cons_iff.2 ⟨fun _ => htakes.symm, fun _ => htakes, ih⟩
  | case4 argument next rest htakes ih =>
      refine IsCut.cons_iff.2 ⟨fun _ => (Bool.eq_false_iff.2 htakes).symm, ?_, ih⟩
      intro hoperand
      simp at hoperand

/-- Such segments are cut again where they were cut, whether or not the last is complete. -/
theorem IsCut.cut_flatMap_words {segments : List Segment} (h : IsCut segments) :
    cut (segments.flatMap words) = segments := by
  induction segments with
  | nil => rfl
  | cons s segments ih =>
      rcases IsCut.cons_iff.1 h with ⟨hs, htakes, h⟩
      by_cases hlast : segments = []
      · subst hlast
        rcases s with ⟨head, _ | operand⟩
        · rfl
        · show cut [head, operand] = _
          rw [cut, if_pos (htakes rfl)]
          rfl
      · rw [List.flatMap_cons, cut_words_append (hs hlast), ih h]

/-- **The cut is the only one.** -/
theorem cut_eq_iff {arguments : List Octets} {segments : List Segment} :
    cut arguments = segments ↔ segments.flatMap words = arguments ∧ IsCut segments := by
  constructor
  · rintro rfl
    exact ⟨words_cut arguments, isCut_cut arguments⟩
  · rintro ⟨rfl, h⟩
    exact h.cut_flatMap_words

/-! ## Uses that no language changes -/

/-- Whether a segment belongs to the compile step. -/
def isCompileFlag (s : Segment) : Bool :=
  Use.ofArgument none s.head = .compile || Use.ofArgument none s.head = .shared

end Segment

namespace Use

theorem ofArgument_of_flag {argument : Octets} (language : Option Octets)
    (hinput : argument ≠ Flags.standardInput) (h : argument.head? = some Octets.hyphen) :
    ofArgument language argument = ofFlag argument := by
  rw [ofArgument, if_neg hinput, if_pos h]

/-- An input is a source, assembly, or left to the linker. -/
theorem ofInput_cases (language : Option Octets) (argument : Octets) :
    ofInput language argument = .source ∨ ofInput language argument = .assembly
      ∨ ofInput language argument = .linkInput := by
  unfold ofInput
  split
  · split <;> simp
  · split
    · simp
    · split
      · simp
      · split <;> simp

/-- An argument is an input under every language or under none. -/
theorem ofArgument_cases (argument : Octets) :
    (∀ language, ofArgument language argument = ofArgument none argument)
    ∨ argument.head? ≠ some Octets.hyphen
      ∧ ∀ language, ofArgument language argument = ofInput language argument := by
  by_cases hinput : argument = Flags.standardInput
  · refine Or.inl fun language => ?_
    rw [ofArgument, ofArgument, if_pos hinput, if_pos hinput]
  · by_cases hflag : argument.head? = some Octets.hyphen
    · refine Or.inl fun language => ?_
      rw [ofArgument_of_flag language hinput hflag, ofArgument_of_flag none hinput hflag]
    · refine Or.inr ⟨hflag, fun language => ?_⟩
      rw [ofArgument, if_neg hinput, if_neg hflag]

theorem ite_ne {p : Prop} [Decidable p] {a b c : Use} (ha : a ≠ c) (hb : b ≠ c) :
    (if p then a else b) ≠ c := by
  split <;> assumption

theorem ofFlag_ne_source (argument : Octets) : ofFlag argument ≠ .source := by
  unfold ofFlag
  -- a walk down the chain of tests; no table gives a flag that use
  repeat' apply ite_ne
  all_goals decide

/-- No source begins as a flag does. -/
theorem head_of_source {language : Option Octets} {argument : Octets}
    (h : ofArgument language argument = .source) : argument.head? ≠ some Octets.hyphen := by
  intro hflag
  by_cases hinput : argument = Flags.standardInput
  · rw [ofArgument, if_pos hinput] at h
    cases h
  · rw [ofArgument_of_flag language hinput hflag] at h
    exact ofFlag_ne_source argument h

end Use

namespace Segment

theorem isCompileFlag_iff (language : Option Octets) (s : Segment) :
    s.isCompileFlag = true
      ↔ Use.ofArgument language s.head = .compile ∨ Use.ofArgument language s.head = .shared := by
  unfold isCompileFlag
  rw [Bool.or_eq_true, decide_eq_true_iff, decide_eq_true_iff]
  rcases Use.ofArgument_cases s.head with hflag | ⟨-, hinput⟩
  · rw [hflag language]
  · rw [hinput, hinput]
    rcases Use.ofInput_cases none s.head with h | h | h <;>
      rcases Use.ofInput_cases language s.head with h' | h' | h' <;> simp [h, h']

/-- The language flag is one of the compile step, so no other segment changes the language. -/
theorem languageAfter_of_not_flag {s : Segment} (h : s.isCompileFlag = false)
    (language : Option Octets) : s.languageAfter language = language := by
  unfold languageAfter
  rw [if_neg]
  intro hlanguage
  rw [isCompileFlag, hlanguage] at h
  exact absurd h (by decide)

/-- The language in force after segments. -/
def languageThrough (language : Option Octets) (segments : List Segment) : Option Octets :=
  segments.foldl (fun language s => s.languageAfter language) language

theorem languageThrough_filter (language : Option Octets) (segments : List Segment) :
    languageThrough language (segments.filter isCompileFlag)
      = languageThrough language segments := by
  unfold languageThrough
  induction segments generalizing language with
  | nil => rfl
  | cons s segments ih =>
      -- a segment left out by the filter leaves the language as it is
      by_cases hflag : s.isCompileFlag = true
      · rw [List.filter_cons_of_pos hflag, List.foldl_cons, List.foldl_cons, ih]
      · rw [List.filter_cons_of_neg hflag, List.foldl_cons, ih,
          languageAfter_of_not_flag (Bool.eq_false_iff.2 hflag)]

/-- The sources among segments, each with the language in force where it stands. -/
def readings (language : Option Octets) : List Segment → List (Path × Option Octets)
  | [] => []
  | s :: rest =>
    (if Use.ofArgument language s.head = .source then [(⟨s.head⟩, language)] else [])
      ++ readings (s.languageAfter language) rest

theorem readings_append (language : Option Octets) (before after : List Segment) :
    readings language (before ++ after)
      = readings language before ++ readings (languageThrough language before) after := by
  induction before generalizing language with
  | nil => rfl
  | cons s before ih =>
      rw [List.cons_append, readings, readings, ih, List.append_assoc]
      rfl

/-- Segments that no language makes a source are none. -/
theorem readings_eq_nil {segments : List Segment}
    (h : ∀ s ∈ segments, ∀ language, Use.ofArgument language s.head ≠ .source)
    (language : Option Octets) : readings language segments = [] := by
  induction segments generalizing language with
  | nil => rfl
  | cons s segments ih =>
      rw [List.forall_mem_cons] at h
      rw [readings, ih h.2, if_neg (h.1 language), List.append_nil]

/-- Flags of the compile step are no sources. -/
theorem readings_of_flags {segments : List Segment} (h : ∀ s ∈ segments, s.isCompileFlag = true)
    (language : Option Octets) : readings language segments = [] := by
  refine readings_eq_nil (fun s hs language hsource => ?_) language
  have hflag := (isCompileFlag_iff language s).1 (h s hs)
  rw [hsource] at hflag
  simp at hflag

theorem use_of_mem_readings {language : Option Octets} {segments : List Segment}
    {source : Path} {name : Option Octets} (h : (source, name) ∈ readings language segments) :
    Use.ofArgument name source.text = .source := by
  induction segments generalizing language with
  | nil => cases h
  | cons s segments ih =>
      rw [readings, List.mem_append] at h
      rcases h with h | h
      · split at h
        · rename_i hsource
          rw [List.mem_singleton] at h
          cases h
          exact hsource
        · cases h
      · exact ih h

end Segment

namespace UsedSegment

open Segment

theorem ofSegments_append (language : Option Octets) (before after : List Segment) :
    ofSegments language (before ++ after)
      = ofSegments language before ++ ofSegments (languageThrough language before) after := by
  induction before generalizing language with
  | nil => rfl
  | cons s before ih =>
      rw [List.cons_append, ofSegments, ofSegments, ih]
      rfl

/-- The readings name the sources, in order. -/
theorem map_fst_readings (language : Option Octets) (segments : List Segment) :
    (readings language segments).map Prod.fst
      = (ofSegments language segments).filterMap source? := by
  induction segments generalizing language with
  | nil => rfl
  | cons s segments ih =>
      rw [readings, ofSegments, List.map_append, ih, List.filterMap_cons]
      unfold source?
      by_cases hsource : Use.ofArgument language s.head = .source
      · rw [if_pos hsource, if_pos hsource]
        rfl
      · rw [if_neg hsource, if_neg hsource]
        rfl

/-- The compile step gets the words of its flags. -/
theorem flatMap_compileWords (language : Option Octets) (segments : List Segment) :
    (ofSegments language segments).flatMap compileWords
      = (segments.filter isCompileFlag).flatMap words := by
  induction segments generalizing language with
  | nil => rfl
  | cons s segments ih =>
      have hflag := isCompileFlag_iff language s
      rw [ofSegments, List.flatMap_cons, ih, compileWords]
      by_cases h : s.isCompileFlag = true
      · rw [List.filter_cons_of_pos h, List.flatMap_cons, if_pos]
        simpa using hflag.1 h
      · rw [List.filter_cons_of_neg h, if_neg]
        · rfl
        · simpa using fun hor => h (hflag.2 hor)

/-- What the uses of segments have in common under every language, they have on a command line. -/
theorem forall_use (P : Use → Prop) {segments : List Segment}
    (h : ∀ s ∈ segments, ∀ language, P (Use.ofArgument language s.head))
    (language : Option Octets) : ∀ u ∈ ofSegments language segments, P u.use := by
  induction segments generalizing language with
  | nil =>
      intro u hu
      cases hu
  | cons s segments ih =>
      rw [List.forall_mem_cons] at h
      rw [ofSegments, List.forall_mem_cons]
      exact ⟨h.1 language, ih h.2 _⟩

theorem mem_ofSegments {s : Segment} {segments : List Segment} (h : s ∈ segments)
    {use : Use} (huse : ∀ language, Use.ofArgument language s.head = use)
    (language : Option Octets) : ⟨use, s⟩ ∈ ofSegments language segments := by
  induction segments generalizing language with
  | nil => cases h
  | cons first segments ih =>
      rw [ofSegments, List.mem_cons]
      rcases List.mem_cons.1 h with rfl | h
      · exact Or.inl (by rw [huse])
      · exact Or.inr (ih h _)

end UsedSegment

end TwinBuild
