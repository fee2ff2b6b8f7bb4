import TwinBuild.Proofs.Segments

/-!
# What the flag tables decide

The tests of a flag stand in a row and the first that applies decides, so a table entry says what
a flag is used as only if no test before it takes the flag away. The tests are set out here as a
list of rules, and the texts that a later rule would cover but an earlier one takes are computed
from the tables. There are three kinds of them: `-Wl,-bitcode_bundle`, which the forbidden flags
take from the link flags, and `-object` and what begins with `-objcmt-`, which would name an output.

Main statements: `Use.ofArgument_eq_iff_listed`, for most uses the tables decide whatever their
order; `Use.ofArgument_eq_output_iff`, what names an output.
-/

namespace TwinBuild

/-- A set of flags: some texts, and all that begins in certain ways. -/
structure FlagSet where
  texts : List Octets := []
  beginnings : List Octets := []
deriving DecidableEq

namespace FlagSet

/-- Whether a flag is in the set. -/
def contains (f : FlagSet) (argument : Octets) : Bool :=
  f.texts.contains argument || Flags.beginsIn f.beginnings argument

/-- The flags of two sets. -/
def union (f g : FlagSet) : FlagSet := ⟨f.texts ++ g.texts, f.beginnings ++ g.beginnings⟩

/-- The flags that two sets have in common. Of two beginnings of one flag, the longer begins with
the shorter. -/
def inter (f g : FlagSet) : FlagSet where
  texts := f.texts.filter g.contains ++ g.texts.filter f.contains
  beginnings := f.beginnings.filter (Flags.beginsIn g.beginnings)
    ++ g.beginnings.filter (Flags.beginsIn f.beginnings)

/-- Whether everything in the set begins as a flag does, and goes on. -/
def isOfFlags (f : FlagSet) : Bool :=
  (f.texts ++ f.beginnings).all fun t => t.head? = some Octets.hyphen && 2 ≤ t.length

theorem contains_iff {f : FlagSet} {argument : Octets} :
    f.contains argument = true
      ↔ argument ∈ f.texts ∨ ∃ b ∈ f.beginnings, b <+: argument := by
  unfold contains Flags.beginsIn
  simp

@[simp]
theorem contains_empty (argument : Octets) : (⟨[], []⟩ : FlagSet).contains argument = false := rfl

@[simp]
theorem contains_union (f g : FlagSet) (argument : Octets) :
    (f.union g).contains argument = (f.contains argument || g.contains argument) := by
  rw [Bool.eq_iff_iff, Bool.or_eq_true, contains_iff, contains_iff, contains_iff]
  show argument ∈ f.texts ++ g.texts ∨ (∃ b ∈ f.beginnings ++ g.beginnings, b <+: argument) ↔ _
  simp only [List.mem_append, or_and_right, exists_or]
  exact or_or_or_comm ..

/-- The flags of any of the sets. -/
def unions (sets : List FlagSet) : FlagSet := sets.foldr union {}

theorem contains_unions_iff {sets : List FlagSet} {argument : Octets} :
    (unions sets).contains argument = true ↔ ∃ f ∈ sets, f.contains argument = true := by
  induction sets with
  | nil => simp [unions]
  | cons f sets ih =>
      show ((f.union (unions sets)).contains argument = true) ↔ _
      rw [contains_union, Bool.or_eq_true, ih]
      simp

theorem contains_inter {f g : FlagSet} {argument : Octets} (hf : f.contains argument = true)
    (hg : g.contains argument = true) : (f.inter g).contains argument = true := by
  rw [contains_iff] at hf hg ⊢
  rcases hf with hf | ⟨b, hb, hbefore⟩
  · exact Or.inl (List.mem_append_left _ (List.mem_filter.2 ⟨hf, contains_iff.2 hg⟩))
  rcases hg with hg | ⟨c, hc, hcbefore⟩
  · refine Or.inl (List.mem_append_right _ (List.mem_filter.2 ⟨hg, contains_iff.2 ?_⟩))
    exact Or.inr ⟨b, hb, hbefore⟩
  · refine Or.inr ?_
    rcases List.prefix_or_prefix_of_prefix hbefore hcbefore with hle | hle
    · refine ⟨c, List.mem_append_right _ (List.mem_filter.2 ⟨hc, ?_⟩), hcbefore⟩
      exact List.any_eq_true.2 ⟨b, hb, List.isPrefixOf_iff_prefix.2 hle⟩
    · refine ⟨b, List.mem_append_left _ (List.mem_filter.2 ⟨hb, ?_⟩), hbefore⟩
      exact List.any_eq_true.2 ⟨c, hc, List.isPrefixOf_iff_prefix.2 hle⟩

theorem flag_of_contains {f : FlagSet} (hf : f.isOfFlags = true) {argument : Octets}
    (h : f.contains argument = true) :
    argument ≠ Flags.standardInput ∧ argument.head? = some Octets.hyphen := by
  -- an entry is at least two octets long, and `-` alone is only one
  have hentry : ∃ t ∈ f.texts ++ f.beginnings, t <+: argument := by
    rcases contains_iff.1 h with hmem | ⟨b, hb, hbefore⟩
    · exact ⟨argument, List.mem_append_left _ hmem, List.prefix_refl _⟩
    · exact ⟨b, List.mem_append_right _ hb, hbefore⟩
  rcases hentry with ⟨t, ht, rest, rfl⟩
  have hlong := List.all_eq_true.1 hf t ht
  simp only [Bool.and_eq_true, decide_eq_true_eq] at hlong
  constructor
  · intro hinput
    have hlength := congrArg List.length hinput
    rw [List.length_append] at hlength
    have hone : Flags.standardInput.length = 1 := by decide
    omega
  · rw [List.head?_append, hlong.1]
    rfl

end FlagSet

/-! ## Rules -/

/-- A test of a flag and the use that it decides. -/
structure FlagRule where
  flags : FlagSet
  use : Use

namespace FlagRule

/-- The use of a flag by the first rule that covers it. -/
def decided (argument : Octets) : List FlagRule → Use
  | [] => .compile
  | r :: rest => if r.flags.contains argument then r.use else decided argument rest

/-- The flags that the rules for a use cover. -/
def listed (use : Use) : List FlagRule → FlagSet
  | [] => {}
  | r :: rest => if r.use = use then r.flags.union (listed use rest) else listed use rest

/-- The flags that a rule for a use covers, but a rule for another use before it too. -/
def overridden (use : Use) : List FlagRule → FlagSet
  | [] => {}
  | r :: rest =>
    if r.use = use then overridden use rest
    else (r.flags.inter (listed use rest)).union (overridden use rest)

theorem listed_of_decided {use : Use} (hdefault : use ≠ .compile) {argument : Octets}
    {rules : List FlagRule} (h : decided argument rules = use) :
    (listed use rules).contains argument = true := by
  induction rules with
  | nil => exact absurd h.symm hdefault
  | cons r rest ih =>
      rw [decided] at h
      rw [listed]
      split at h
      · rename_i hcovers
        rw [if_pos h, FlagSet.contains_union, hcovers, Bool.true_or]
      · split
        · rw [FlagSet.contains_union, ih h, Bool.or_true]
        · exact ih h

/-- A rule decides for every flag that no rule for another use takes away before it. -/
theorem decided_of_listed {use : Use} {argument : Octets} {rules : List FlagRule}
    (h : (listed use rules).contains argument = true)
    (hfree : (overridden use rules).contains argument = false) :
    decided argument rules = use := by
  induction rules with
  | nil => cases h
  | cons r rest ih =>
      rw [listed] at h
      rw [overridden] at hfree
      rw [decided]
      by_cases huse : r.use = use
      · rw [if_pos huse] at h hfree
        split
        · exact huse
        · rename_i hcovers
          rw [FlagSet.contains_union, Bool.eq_false_iff.2 hcovers, Bool.false_or] at h
          exact ih h hfree
      · rw [if_neg huse] at h hfree
        rw [FlagSet.contains_union, Bool.or_eq_false_iff] at hfree
        split
        · rename_i hcovers
          have hboth := FlagSet.contains_inter hcovers h
          rw [hfree.1] at hboth
          cases hboth
        · exact ih h hfree.2

end FlagRule

namespace Flags

/-- The rules, in order. -/
def rules : List FlagRule := [
  ⟨⟨[compileOnly], []⟩, .compileOnly⟩,
  ⟨⟨[output], []⟩, .output⟩,
  ⟨⟨[preprocess], []⟩, .preprocess⟩,
  ⟨⟨[assemble], []⟩, .assemble⟩,
  ⟨⟨[emitBitcode], []⟩, .emitBitcode⟩,
  ⟨⟨dependencies, []⟩, .dependencies⟩,
  ⟨⟨print, printBeginnings⟩, .print⟩,
  ⟨⟨forbidden, forbiddenBeginnings⟩, .forbidden⟩,
  ⟨⟨dependencyFile, dependencyOperand⟩, .dependencyFile⟩,
  ⟨⟨[language], []⟩, .compile⟩,
  ⟨⟨compileOperand, []⟩, .compile⟩,
  ⟨⟨sharedOperand, []⟩, .shared⟩,
  ⟨⟨linkOperand, []⟩, .link⟩,
  ⟨⟨link, linkBeginnings⟩, .link⟩,
  ⟨⟨shared, sharedBeginnings⟩, .shared⟩,
  ⟨⟨[], compileBeginnings⟩, .compile⟩,
  ⟨⟨[], [output]⟩, .output⟩]

/-- The flags that the tables list for a use. -/
def listed (use : Use) : FlagSet := FlagRule.listed use rules

/-- The flags of the modes in which no bitcode is made, and of the one that stops before the
link. -/
def modes : FlagSet where
  texts := [compileOnly, preprocess, assemble, emitBitcode] ++ dependencies ++ print
  beginnings := printBeginnings

/-- The flags of dependency files. -/
def dependencyFiles : FlagSet := ⟨dependencyFile, dependencyOperand⟩

/-- The flags of both steps. -/
def sharedFlags : FlagSet := ⟨sharedOperand ++ shared, sharedBeginnings⟩

/-- What begins as an output does and is none. -/
def noOutputs : FlagSet := ⟨[Octets.ofString "-object"], compileBeginnings⟩

/-- What names an output. -/
def isOutput (argument : Octets) : Bool :=
  output.isPrefixOf argument && !noOutputs.contains argument

end Flags

namespace Use

theorem ofFlag_eq_decided (argument : Octets) :
    ofFlag argument = FlagRule.decided argument Flags.rules := by
  unfold ofFlag
  simp only [Flags.rules, FlagRule.decided, FlagSet.contains, Flags.beginsIn, List.contains_cons,
    List.contains_nil, List.any_nil, List.any_cons, Bool.or_false, Bool.false_or, beq_iff_eq]
  congr

/-- The tables list nothing but flags. -/
theorem isOfFlags_listed (use : Use) : (Flags.listed use).isOfFlags = true := by
  cases use <;> decide +kernel

/-- An argument is used as its flag says if no rule for another use takes the flag away. -/
theorem ofArgument_of_listed {use : Use} {argument : Octets} (language : Option Octets)
    (h : (Flags.listed use).contains argument = true)
    (hfree : (FlagRule.overridden use Flags.rules).contains argument = false) :
    ofArgument language argument = use := by
  rcases FlagSet.flag_of_contains (isOfFlags_listed use) h with ⟨hinput, hhyphen⟩
  rw [ofArgument_of_flag language hinput hhyphen, ofFlag_eq_decided]
  exact FlagRule.decided_of_listed h hfree

/-- A use that is not that of an input or of a flag in no table comes from the tables. -/
theorem listed_of_ofArgument {use : Use}
    (huse : use ∉ [.standardInput, .source, .assembly, .linkInput, .compile])
    {language : Option Octets} {argument : Octets} (h : ofArgument language argument = use) :
    (Flags.listed use).contains argument = true := by
  unfold ofArgument at h
  split at h
  · subst h
    simp at huse
  split at h
  · rw [ofFlag_eq_decided] at h
    apply FlagRule.listed_of_decided _ h
    rintro rfl
    simp at huse
  · subst h
    rcases ofInput_cases language argument with hinput | hinput | hinput <;> simp [hinput] at huse

/-- The uses for which no flag is taken away by another rule. -/
def ofTables : List Use := [.compileOnly, .preprocess, .assemble, .emitBitcode, .dependencies,
  .print, .forbidden, .dependencyFile, .shared]

/-- **What the tables decide whatever their order.** An argument has one of these uses exactly if
the tables list it for that use. -/
theorem ofArgument_eq_iff_listed {use : Use} (huse : use ∈ ofTables) (language : Option Octets)
    (argument : Octets) :
    ofArgument language argument = use ↔ (Flags.listed use).contains argument = true := by
  have hnamed : ∀ u ∈ ofTables,
      u ∉ [standardInput, .source, .assembly, .linkInput, .compile] := by decide
  have hfree : ∀ u ∈ ofTables, FlagRule.overridden u Flags.rules = {} := by decide +kernel
  constructor
  · exact listed_of_ofArgument (hnamed use huse)
  · intro h
    apply ofArgument_of_listed language h
    rw [hfree use huse]
    exact FlagSet.contains_empty argument

/-- What begins as an output and is none is a flag of the link or of the compile step. -/
theorem ofArgument_of_noOutputs (language : Option Octets) {argument : Octets}
    (h : Flags.noOutputs.contains argument = true) :
    ofArgument language argument = .link ∨ ofArgument language argument = .compile := by
  rw [FlagSet.contains_iff] at h
  rcases h with htext | hbeginning
  · refine Or.inl (ofArgument_of_listed language ?_ ?_) <;>
      · rw [List.mem_singleton.1 htext]
        decide +kernel
  · have hlisted : ∀ b ∈ Flags.noOutputs.beginnings, b ∈ (Flags.listed .compile).beginnings := by
      decide +kernel
    have hfree : FlagRule.overridden .compile Flags.rules = {} := by decide +kernel
    refine Or.inr (ofArgument_of_listed language ?_ ?_)
    · rcases hbeginning with ⟨b, hb, hbefore⟩
      exact FlagSet.contains_iff.2 (Or.inr ⟨b, hlisted b hb, hbefore⟩)
    · rw [hfree]
      exact FlagSet.contains_empty argument

/-- **What names an output.** It is what begins with `-o`, but for the flags of the other tables
that begin so too. -/
theorem ofArgument_eq_output_iff (language : Option Octets) (argument : Octets) :
    ofArgument language argument = .output ↔ Flags.isOutput argument = true := by
  have hlisted : (Flags.listed .output).contains argument = Flags.output.isPrefixOf argument := by
    have hset : Flags.listed .output = ⟨[Flags.output], [Flags.output]⟩ := by decide +kernel
    rw [hset, Bool.eq_iff_iff, FlagSet.contains_iff, List.isPrefixOf_iff_prefix]
    simp only [List.mem_singleton, exists_eq_left, or_iff_right_iff_imp]
    rintro rfl
    exact List.prefix_refl _
  have hfree : FlagRule.overridden .output Flags.rules = Flags.noOutputs := by decide +kernel
  unfold Flags.isOutput
  rw [Bool.and_eq_true, Bool.not_eq_true', ← hlisted]
  constructor
  · intro h
    refine ⟨listed_of_ofArgument (by decide) h, Bool.eq_false_iff.2 fun hnone => ?_⟩
    rcases ofArgument_of_noOutputs language hnone with huse | huse <;>
      · rw [h] at huse
        cases huse
  · rintro ⟨h, hnone⟩
    apply ofArgument_of_listed language h
    rw [hfree]
    exact hnone

end Use

end TwinBuild
