import TwinBuild.Proofs.Conservation

/-!
# Operands that are joined to their flags

Some flags may have their operand joined to them or as the next argument. Whether the two spellings
are read alike is decided by what follows on the command line. For all but the language flag it does not
matter: the flag is used alike, and no language changes. A language flag with its operand joined is a
flag of the compile step like any other and sets no language, so the spellings are read alike only if
every input up to the next language flag is what it would have been without the flag.

Main statement: `Invocation.joined_reads_alike_iff`.
-/

namespace TwinBuild

namespace Flags

/-- The flags whose operand may be joined to them or be the next argument. -/
def joinable : List Octets :=
  table ["-o", "-x", "-I", "-D", "-U", "-l", "-L", "-MF", "-MT", "-MQ"]

/-- An operand that may be joined to a flag: no table lists the text of the two, and what the tables
list as a beginning of it is the flag. -/
structure Joins (flag operand : Octets) : Prop where
  joinable : flag ∈ joinable
  nonempty : operand ≠ []
  texts : ∀ r ∈ rules, flag ++ operand ∉ r.flags.texts
  beginnings : ∀ r ∈ rules, ∀ b ∈ r.flags.beginnings, b <+: flag ++ operand → b = flag

end Flags

namespace FlagRule

/-- The use of what begins as a flag does, by the first rule that has the flag among its beginnings. -/
def begun (flag : Octets) : List FlagRule → Use
  | [] => .compile
  | r :: rest => if flag ∈ r.flags.beginnings then r.use else begun flag rest

theorem decided_eq_begun {flag argument : Octets} (hflag : flag <+: argument)
    {rules : List FlagRule} (htexts : ∀ r ∈ rules, argument ∉ r.flags.texts)
    (hbeginnings : ∀ r ∈ rules, ∀ b ∈ r.flags.beginnings, b <+: argument → b = flag) :
    decided argument rules = begun flag rules := by
  induction rules with
  | nil => rfl
  | cons r rest ih =>
      rw [List.forall_mem_cons] at htexts hbeginnings
      have hcovers : r.flags.contains argument = true ↔ flag ∈ r.flags.beginnings := by
        rw [FlagSet.contains_iff]
        constructor
        · rintro (htext | ⟨b, hb, hbefore⟩)
          · exact absurd htext htexts.1
          · rwa [← hbeginnings.1 b hb hbefore]
        · exact fun h => Or.inr ⟨flag, h, hflag⟩
      rw [decided, begun, ih htexts.2 hbeginnings.2]
      by_cases h : flag ∈ r.flags.beginnings
      · rw [if_pos (hcovers.2 h), if_pos h]
      · rw [if_neg (fun hc => h (hcovers.1 hc)), if_neg h]

end FlagRule

namespace Flags.Joins

variable {flag operand : Octets}

theorem takesOperand (h : Joins flag operand) : takesOperand.contains flag = true := by
  have hall : ∀ f ∈ Flags.joinable, Flags.takesOperand.contains f = true := by decide +kernel
  exact hall flag h.joinable

/-- The flag and the operand joined are one argument, which takes none. -/
theorem joined_takes_none (h : Joins flag operand) :
    Flags.takesOperand.contains (flag ++ operand) = false := by
  have hlisted : ∀ f ∈ Flags.takesOperand,
      ∃ r ∈ rules, f ∈ r.flags.texts ∨ f ∈ r.flags.beginnings := by decide +kernel
  refine Bool.eq_false_iff.2 fun htakes => ?_
  obtain ⟨r, hr, htext | hbeginning⟩ := hlisted _ (List.contains_iff_mem.1 htakes)
  · exact h.texts r hr htext
  · have heq := h.beginnings r hr _ hbeginning (List.prefix_refl _)
    exact h.nonempty (List.append_right_eq_self.1 heq)

/-- **A joined flag is used as the flag is**, whatever language is in force. -/
theorem use_joined (h : Joins flag operand) (language : Option Octets) :
    Use.ofArgument language (flag ++ operand) = Use.ofFlag flag := by
  have hflags : (⟨[], Flags.joinable⟩ : FlagSet).isOfFlags = true := by decide +kernel
  have hbegun : ∀ f ∈ Flags.joinable, FlagRule.begun f rules = Use.ofFlag f := by decide +kernel
  have hbefore : flag <+: flag ++ operand := List.prefix_append _ _
  obtain ⟨hinput, hhyphen⟩ :=
    FlagSet.flag_of_contains hflags (FlagSet.contains_iff.2 (Or.inr ⟨flag, h.joinable, hbefore⟩))
  rw [Use.ofArgument_of_flag language hinput hhyphen, Use.ofFlag_eq_decided,
    FlagRule.decided_eq_begun hbefore h.texts h.beginnings, hbegun flag h.joinable]

theorem use_flag (h : Joins flag operand) (language : Option Octets) :
    Use.ofArgument language flag = Use.ofFlag flag := by
  have hflags : ∀ f ∈ Flags.joinable, f ≠ Flags.standardInput ∧ f.head? = some Octets.hyphen := by
    decide +kernel
  obtain ⟨hinput, hhyphen⟩ := hflags flag h.joinable
  exact Use.ofArgument_of_flag language hinput hhyphen

/-- Both spellings of an output name the operand. -/
theorem outputPath_eq (h : Joins flag operand) (houtput : Use.ofFlag flag = .output) :
    Segment.outputPath ⟨flag, some operand⟩ = some ⟨operand⟩
    ∧ Segment.outputPath ⟨flag ++ operand, none⟩ = some ⟨operand⟩ := by
  have hflag : ∀ f ∈ Flags.joinable, Use.ofFlag f = .output → f = output := by decide +kernel
  obtain rfl := hflag flag h.joinable houtput
  refine ⟨rfl, ?_⟩
  rw [Segment.outputPath, if_neg (fun heq => h.nonempty (List.append_right_eq_self.1 heq))]
  exact congrArg (fun text => some (Path.mk text)) List.drop_left

end Flags.Joins

/-! ## Languages and what follows them -/

namespace Use

/-- Inputs that go to the same lists are used alike. -/
theorem ofInput_eq_of_destinations {language language' : Option Octets} {argument : Octets}
    (h : ∀ d, d ∈ (ofInput language argument).destinations
      ↔ d ∈ (ofInput language' argument).destinations) :
    ofInput language argument = ofInput language' argument := by
  have hsources := h .sources
  have hlink := h .link
  rcases ofInput_cases language argument with heq | heq | heq <;>
    rcases ofInput_cases language' argument with heq' | heq' | heq' <;>
    simp [heq, heq', destinations] at hsources hlink ⊢

/-- Under a language all inputs go to one list or none, so another language sends there no more of them,
or no fewer. -/
theorem destinations_named (d : Destination) (name : Octets) (language : Option Octets) :
    (∀ a, d ∈ (ofInput (some name) a).destinations → d ∈ (ofInput language a).destinations)
    ∨ ∀ a, d ∈ (ofInput language a).destinations → d ∈ (ofInput (some name) a).destinations := by
  unfold ofInput
  simp only
  by_cases hassembly : Flags.assemblyLanguages.contains name = true
  · rw [if_pos hassembly]
    exact Or.inl fun a h => absurd h List.not_mem_nil
  · rw [if_neg hassembly]
    by_cases hd : d = .sources
    · exact Or.inr fun a _ => List.mem_singleton.2 hd
    · exact Or.inl fun a h => absurd (List.mem_singleton.1 h) hd

/-- **Languages are ordered** by what goes to a list: of two, one has all go there that goes there under
the other. -/
theorem destinations_total (d : Destination) (language language' : Option Octets) :
    (∀ a, d ∈ (ofArgument language a).destinations → d ∈ (ofArgument language' a).destinations)
    ∨ ∀ a, d ∈ (ofArgument language' a).destinations → d ∈ (ofArgument language a).destinations := by
  have hinputs : ∀ {l l' : Option Octets},
      (∀ a, d ∈ (ofInput l a).destinations → d ∈ (ofInput l' a).destinations) →
      ∀ a, d ∈ (ofArgument l a).destinations → d ∈ (ofArgument l' a).destinations := by
    intro l l' h a
    rcases ofArgument_cases a with hflag | ⟨-, hinput⟩
    · rw [hflag l, hflag l']
      exact id
    · rw [hinput l, hinput l']
      exact h a
  cases language with
  | some name => exact (destinations_named d name language').imp hinputs hinputs
  | none =>
      cases language' with
      | none => exact Or.inl fun _ => id
      | some name => exact (destinations_named d name none).symm.imp hinputs hinputs

/-- What goes to the same lists under two languages is used alike. -/
theorem ofArgument_eq_of_destinations {language language' : Option Octets} {argument : Octets}
    (h : ∀ d, d ∈ (ofArgument language argument).destinations
      ↔ d ∈ (ofArgument language' argument).destinations) :
    ofArgument language argument = ofArgument language' argument := by
  rcases ofArgument_cases argument with hflag | ⟨-, hinput⟩
  · rw [hflag language, hflag language']
  · rw [hinput language, hinput language'] at h ⊢
    exact ofInput_eq_of_destinations h

end Use

namespace Segment

/-- The segments up to the next language flag. -/
def reach (segments : List Segment) : List Segment :=
  segments.takeWhile fun s => s.head ≠ Flags.language

end Segment

namespace UsedSegment

open Segment

/-- **The language in force reaches up to the next language flag.** What comes from there on is used as
if none were in force. -/
theorem ofSegments_eq_reach (language : Option Octets) (segments : List Segment) :
    ofSegments language segments
      = (reach segments).map (fun s => ⟨Use.ofArgument language s.head, s⟩)
        ++ ofSegments none (segments.drop (reach segments).length) := by
  induction segments generalizing language with
  | nil => rfl
  | cons s segments ih =>
      by_cases hlanguage : s.head = Flags.language
      · have hreach : reach (s :: segments) = [] := by
          rw [reach, List.takeWhile_cons_of_neg (by simpa using hlanguage)]
        have huse : Use.ofArgument language s.head = Use.ofArgument none s.head := by
          rw [hlanguage, Use.ofArgument_of_flag language (by decide) (by decide),
            Use.ofArgument_of_flag none (by decide) (by decide)]
        rw [hreach, List.map_nil, List.nil_append, List.length_nil, List.drop_zero, ofSegments,
          ofSegments, huse, languageAfter, languageAfter, if_pos hlanguage, if_pos hlanguage]
      · have hreach : reach (s :: segments) = s :: reach segments := by
          rw [reach, List.takeWhile_cons_of_pos (by simpa using hlanguage)]
          rfl
        rw [hreach, ofSegments, languageAfter, if_neg hlanguage, ih]
        rfl

section Choice

variable {α β : Type} {p q : α → Prop} [DecidablePred p] [DecidablePred q] {words : α → List β}

/-- What is chosen more often gives more words. -/
theorem length_flatMap_le (hle : ∀ x, p x → q x) (xs : List α) :
    (xs.flatMap fun x => if p x then words x else []).length
      ≤ (xs.flatMap fun x => if q x then words x else []).length := by
  induction xs with
  | nil => exact Nat.le_refl _
  | cons y ys ih =>
      rw [List.flatMap_cons, List.flatMap_cons, List.length_append, List.length_append]
      by_cases hp : p y
      · rw [if_pos hp, if_pos (hle y hp)]
        exact Nat.add_le_add_left ih _
      · rw [if_neg hp, List.length_nil, Nat.zero_add]
        exact Nat.le_add_left_of_le ih

/-- Where the words are the same, so is the choice. -/
theorem iff_of_flatMap_eq (hwords : ∀ x, words x ≠ []) (hle : ∀ x, p x → q x) {xs : List α}
    (h : xs.flatMap (fun x => if p x then words x else [])
      = xs.flatMap fun x => if q x then words x else []) : ∀ x ∈ xs, (p x ↔ q x) := by
  induction xs with
  | nil => exact fun x hx => absurd hx List.not_mem_nil
  | cons y ys ih =>
      rw [List.flatMap_cons, List.flatMap_cons] at h
      rw [List.forall_mem_cons]
      by_cases hp : p y
      · rw [if_pos hp, if_pos (hle y hp)] at h
        exact ⟨iff_of_true hp (hle y hp), ih (List.append_cancel_left h)⟩
      · rw [if_neg hp, List.nil_append] at h
        by_cases hq : q y
        · -- the words of `y` are too many
          have hmore := congrArg List.length h
          rw [if_pos hq, List.length_append] at hmore
          have hpos := List.length_pos_iff.2 (hwords y)
          have hrest := @length_flatMap_le _ _ p q _ _ words hle ys
          omega
        · rw [if_neg hq, List.nil_append] at h
          exact ⟨iff_of_false hp hq, ih h⟩

end Choice

/-- Where two languages send the same words to each list, all is used alike under them. -/
theorem use_eq_of_wordsFor {language language' : Option Octets} {segments : List Segment}
    (h : ∀ d, (segments.map fun s => ⟨Use.ofArgument language s.head, s⟩).flatMap (wordsFor d)
      = (segments.map fun s => ⟨Use.ofArgument language' s.head, s⟩).flatMap (wordsFor d)) :
    ∀ s ∈ segments, Use.ofArgument language s.head = Use.ofArgument language' s.head := by
  intro s hs
  refine Use.ofArgument_eq_of_destinations fun d => ?_
  have hd := h d
  rw [List.flatMap_map, List.flatMap_map] at hd
  have hwords : ∀ s : Segment, s.words ≠ [] := fun s => List.cons_ne_nil _ _
  rcases Use.destinations_total d language language' with hle | hle
  · exact iff_of_flatMap_eq hwords (fun s => hle s.head) hd s hs
  · exact (iff_of_flatMap_eq hwords (fun s => hle s.head) hd.symm s hs).symm

/-- A command line with a segment between two parts. -/
theorem ofArguments_between {before : List Octets} (h : dangles before = false) {s : Segment}
    (hs : s.Complete) (after : List Octets) :
    ofArguments (before ++ (s.words ++ after))
      = ofArguments before
        ++ ⟨Use.ofArgument (languageThrough none (cut before)) s.head, s⟩
          :: ofSegments (s.languageAfter (languageThrough none (cut before))) (cut after) := by
  have hcut : cut (before ++ (s.words ++ after)) = cut before ++ s :: cut after := by
    rw [← cut_words_append hs, ← cut_flatMap_words (complete_of_mem_cut h), words_cut]
  rw [ofArguments, hcut, ofSegments_append]
  rfl

variable {flag operand : Octets} {before : List Octets}

/-- A command line with a flag and its operand as two arguments. -/
theorem ofArguments_separate (hjoins : Flags.Joins flag operand) (h : dangles before = false)
    (after : List Octets) :
    ofArguments (before ++ flag :: operand :: after)
      = ofArguments before
        ++ ⟨Use.ofFlag flag, ⟨flag, some operand⟩⟩
          :: ofSegments (languageAfter ⟨flag, some operand⟩ (languageThrough none (cut before)))
            (cut after) := by
  have hbetween := ofArguments_between h (s := ⟨flag, some operand⟩) hjoins.takesOperand.symm after
  rwa [hjoins.use_flag] at hbetween

/-- A command line with a flag and its operand as one argument, which sets no language. -/
theorem ofArguments_joined (hjoins : Flags.Joins flag operand) (h : dangles before = false)
    (after : List Octets) :
    ofArguments (before ++ (flag ++ operand) :: after)
      = ofArguments before
        ++ ⟨Use.ofFlag flag, ⟨flag ++ operand, none⟩⟩
          :: ofSegments (languageThrough none (cut before)) (cut after) := by
  have hkeeps : ∀ language,
      languageAfter ⟨flag ++ operand, none⟩ language = language := by
    intro language
    unfold languageAfter
    rw [if_neg]
    intro hlanguage
    have htakes := hjoins.joined_takes_none
    rw [show flag ++ operand = Flags.language from hlanguage] at htakes
    exact absurd htakes (by decide)
  have hbetween := ofArguments_between h (s := ⟨flag ++ operand, none⟩)
    hjoins.joined_takes_none.symm after
  rwa [hjoins.use_joined, hkeeps] at hbetween

end UsedSegment

namespace Invocation

open Segment UsedSegment

/-- **Two readings that are alike** but for the spelling of a flag that stands after some arguments: the
sources, the output, the modes and what becomes of the invocation are the same. Each list begins with
what the arguments before give to it, goes on with what the flag gives to it, and ends alike. -/
structure ReadAlike (before : List Octets) (s t : Segment) (i j : Invocation) : Prop where
  sources : i.sources = j.sources
  output : i.output = j.output
  hasAssembly : i.hasAssembly = j.hasAssembly
  readsStandardInput : i.readsStandardInput = j.readsStandardInput
  compilesOnly : i.compilesOnly = j.compilesOnly
  printsOnly : i.printsOnly = j.printsOnly
  preprocessesOnly : i.preprocessesOnly = j.preprocessesOnly
  assemblesOnly : i.assemblesOnly = j.assemblesOnly
  emitsBitcode : i.emitsBitcode = j.emitsBitcode
  dependenciesOnly : i.dependenciesOnly = j.dependenciesOnly
  bypass : ∀ configuring, i.bypass? configuring = j.bypass? configuring
  others : ∀ d, ∃ rest,
    i.wordsAt d = (ofArguments before).wordsAt d
      ++ (wordsFor d ⟨Use.ofArgument none s.head, s⟩ ++ rest)
    ∧ j.wordsAt d = (ofArguments before).wordsAt d
      ++ (wordsFor d ⟨Use.ofArgument none t.head, t⟩ ++ rest)

/-- A list is what the arguments before a segment give to it, what the segment does, and what comes
after. -/
theorem wordsAt_between {arguments before : List Octets} {u : UsedSegment}
    {after : List UsedSegment} (h : UsedSegment.ofArguments arguments
      = UsedSegment.ofArguments before ++ u :: after) (d : Destination) :
    (ofArguments arguments).wordsAt d
      = (ofArguments before).wordsAt d ++ (wordsFor d u ++ after.flatMap (wordsFor d)) := by
  rw [wordsAt_ofArguments, wordsAt_ofArguments, h, List.flatMap_append, List.flatMap_cons]

/-- Two segments of one use that name the same source, flag and output give the same reading, where
what is around them is used alike. -/
theorem readAlike_of_segments {before arguments arguments' : List Octets} {s t : Segment}
    {use : Use} (hs : ∀ language, Use.ofArgument language s.head = use)
    (ht : ∀ language, Use.ofArgument language t.head = use)
    (hsource : use ≠ .source) (houtput : use = .output → s.outputPath = t.outputPath)
    {after : List UsedSegment}
    (hleft : UsedSegment.ofArguments arguments = UsedSegment.ofArguments before ++ ⟨use, s⟩ :: after)
    (hright : UsedSegment.ofArguments arguments'
      = UsedSegment.ofArguments before ++ ⟨use, t⟩ :: after) :
    ReadAlike before s t (ofArguments arguments) (ofArguments arguments') := by
  have hsources : (ofArguments arguments).sources = (ofArguments arguments').sources := by
    show (UsedSegment.ofArguments arguments).filterMap source?
      = (UsedSegment.ofArguments arguments').filterMap source?
    rw [hleft, hright, List.filterMap_append, List.filterMap_append, List.filterMap_cons,
      List.filterMap_cons]
    simp only [source?, if_neg hsource]
  have hmode : ∀ mode, (UsedSegment.ofArguments arguments).any (·.use == mode)
      = (UsedSegment.ofArguments arguments').any (·.use == mode) := by
    intro mode
    rw [hleft, hright, List.any_append, List.any_append]
    rfl
  have houtputs : (UsedSegment.ofArguments arguments).filterMap output?
      = (UsedSegment.ofArguments arguments').filterMap output? := by
    have hown : output? ⟨use, s⟩ = output? ⟨use, t⟩ := by
      unfold output?
      by_cases huse : use = .output
      · rw [if_pos huse, if_pos huse, houtput huse]
      · rw [if_neg huse, if_neg huse]
    rw [hleft, hright, List.filterMap_append, List.filterMap_append, List.filterMap_cons,
      List.filterMap_cons, hown]
  refine ⟨hsources, congrArg (fun outputs => outputs.getLast?.join) houtputs, hmode _, hmode _,
    hmode _, hmode _, hmode _, hmode _, hmode _, hmode _, fun configuring => ?_, fun d => ?_⟩
  · have hall : (ofArguments arguments).printsOnly = (ofArguments arguments').printsOnly
        ∧ (ofArguments arguments).preprocessesOnly = (ofArguments arguments').preprocessesOnly
        ∧ (ofArguments arguments).assemblesOnly = (ofArguments arguments').assemblesOnly
        ∧ (ofArguments arguments).emitsBitcode = (ofArguments arguments').emitsBitcode
        ∧ (ofArguments arguments).dependenciesOnly = (ofArguments arguments').dependenciesOnly
        ∧ (ofArguments arguments).compilesOnly = (ofArguments arguments').compilesOnly
        ∧ (ofArguments arguments).hasAssembly = (ofArguments arguments').hasAssembly
        ∧ (ofArguments arguments).readsStandardInput
          = (ofArguments arguments').readsStandardInput :=
      ⟨hmode _, hmode _, hmode _, hmode _, hmode _, hmode _, hmode _, hmode _⟩
    unfold bypass?
    simp only [hall, hsources]
  · refine ⟨after.flatMap (wordsFor d), ?_, ?_⟩
    · rw [wordsAt_between hleft, hs none]
    · rw [wordsAt_between hright, ht none]

/-- **When joined and separate operands are read alike.** A flag that may be joined to its operand stands
where it is no operand itself. Joining it leaves the reading as it was exactly if what follows, up to the
next language flag, is used alike under the language that the flag sets, if it sets one, and under the
language in force before. For every flag but that of the language this is so. -/
theorem joined_reads_alike_iff {flag operand : Octets} (hjoins : Flags.Joins flag operand)
    {before : List Octets} (hflag : dangles before = false) (after : List Octets) :
    let separate : Segment := ⟨flag, some operand⟩
    let joined : Segment := ⟨flag ++ operand, none⟩
    let language := languageThrough none (cut before)
    let alike := ReadAlike before separate joined (ofArguments (before ++ flag :: operand :: after))
      (ofArguments (before ++ (flag ++ operand) :: after))
    (alike ↔ ∀ s ∈ reach (cut after),
      Use.ofArgument (separate.languageAfter language) s.head = Use.ofArgument language s.head)
    ∧ (flag ≠ Flags.language → alike) := by
  intro separate joined language alike
  have hleft := ofArguments_separate hjoins hflag after
  have hright := ofArguments_joined hjoins hflag after
  have hiff : alike ↔ ∀ s ∈ reach (cut after),
      Use.ofArgument (separate.languageAfter language) s.head
        = Use.ofArgument language s.head := by
    constructor
    · intro h
      refine use_eq_of_wordsFor fun d => ?_
      -- what comes after the flag gives the same to each list
      obtain ⟨rest, hi, hj⟩ := h.others d
      rw [wordsAt_between hleft, hjoins.use_flag] at hi
      rw [wordsAt_between hright, hjoins.use_joined] at hj
      have hrest := (List.append_cancel_left (List.append_cancel_left hi)).trans
        (List.append_cancel_left (List.append_cancel_left hj)).symm
      rw [ofSegments_eq_reach, ofSegments_eq_reach language, List.flatMap_append,
        List.flatMap_append] at hrest
      exact List.append_cancel_right hrest
    · intro h
      have hafter : ofSegments (separate.languageAfter language) (cut after)
          = ofSegments language (cut after) := by
        rw [ofSegments_eq_reach, ofSegments_eq_reach language]
        congr 1
        exact List.map_congr_left fun s hs => by rw [h s hs]
      rw [hafter] at hleft
      refine readAlike_of_segments hjoins.use_flag hjoins.use_joined
        (Use.ofFlag_ne_source flag) ?_ hleft hright
      intro houtput
      obtain ⟨hs, ht⟩ := hjoins.outputPath_eq houtput
      exact hs.trans ht.symm
  refine ⟨hiff, fun hne => hiff.2 fun s _ => ?_⟩
  rw [show separate.languageAfter language = language from if_neg hne]

/-- An output that looks like a mode, after an operand that looks like its flag, and a language that
changes nothing for what follows it. -/
theorem joined_reads_alike_imitations :
    (ReadAlike (Flags.table ["-I", "-o"]) ⟨.ofString "-o", some (.ofString "-c")⟩
        ⟨.ofString "-o-c", none⟩
        (.ofArguments (Flags.table ["-I", "-o", "-o", "-c", "a.c", "-lm"]))
        (.ofArguments (Flags.table ["-I", "-o", "-o-c", "a.c", "-lm"])))
    ∧ ReadAlike [] ⟨.ofString "-x", some (.ofString "c")⟩ ⟨.ofString "-xc", none⟩
        (.ofArguments (Flags.table ["-x", "c", "a.c", "-x", "none", "b.o"]))
        (.ofArguments (Flags.table ["-xc", "a.c", "-x", "none", "b.o"])) := by
  have houtput : Flags.Joins (.ofString "-o") (.ofString "-c") :=
    ⟨by decide +kernel, by decide, by decide +kernel, by decide +kernel⟩
  have hlanguage : Flags.Joins (.ofString "-x") (.ofString "c") :=
    ⟨by decide +kernel, by decide, by decide +kernel, by decide +kernel⟩
  have hcomplete : dangles (Flags.table ["-I", "-o"]) = false := by decide +kernel
  have hnothing : dangles [] = false := by decide
  exact ⟨(joined_reads_alike_iff houtput hcomplete (Flags.table ["a.c", "-lm"])).2 (by decide),
    (joined_reads_alike_iff hlanguage hnothing (Flags.table ["a.c", "-x", "none", "b.o"])).1.2
      (by decide +kernel)⟩

/-- **A joined language is not read.** With the language as the next argument the input is a source, and
with the language joined to its flag it is left to the linker, so that there is nothing to build. -/
theorem joined_language_not_read :
    let separate := ofArguments (Flags.table ["-x", "c", "-c", "a.txt"])
    let joined := ofArguments (Flags.table ["-xc", "-c", "a.txt"])
    Flags.Joins (.ofString "-x") (.ofString "c") ∧ dangles [] = false
    ∧ (separate.sources = [.ofString "a.txt"] ∧ separate.linkArguments = []
      ∧ separate.bypass? false = none)
    ∧ (joined.sources = [] ∧ joined.linkArguments = [.ofString "a.txt"]
      ∧ joined.bypass? false = some .noSources)
    ∧ ¬ ReadAlike [] ⟨.ofString "-x", some (.ofString "c")⟩ ⟨.ofString "-xc", none⟩ separate joined := by
  intro separate joined
  have hjoins : Flags.Joins (.ofString "-x") (.ofString "c") :=
    ⟨by decide +kernel, by decide, by decide +kernel, by decide +kernel⟩
  have hseparate : separate.sources = [.ofString "a.txt"] ∧ separate.linkArguments = []
      ∧ separate.bypass? false = none := by decide +kernel
  have hjoined : joined.sources = [] ∧ joined.linkArguments = [.ofString "a.txt"]
      ∧ joined.bypass? false = some .noSources := by decide +kernel
  refine ⟨hjoins, by decide, hseparate, hjoined, fun h => ?_⟩
  have hsources := h.sources
  rw [hseparate.1, hjoined.1] at hsources
  cases hsources

end Invocation

end TwinBuild
