import Mathlib.Data.List.Induction
import Mathlib.Data.List.Nodup
import Mathlib.Tactic.Tauto
import TwinBuild.Log.Filter
import TwinBuild.Proofs.Places

/-!
# What a filter text on the command line decides

The directives of the command line are added to those of the variable, and take the place of those with
the same name only. Of the directives for a part the one with the longest name decides, so what the
variable says of a part stays in force unless the command line has a directive by the very name of that
part. The pattern of the command line alone is asked for.

Main statement: `Filter.commandLine_decides_iff`.
-/

namespace TwinBuild.Log

namespace Filter

/-! ## The table of directives -/

variable {ds : List Directive} {d e : Directive}

/-- A directive that is added keeps the names there are, and comes last if its own is new. -/
theorem map_target_add (ds : List Directive) (d : Directive) :
    (add ds d).map Directive.target
      = if d.target ∈ ds.map Directive.target then ds.map Directive.target
        else ds.map Directive.target ++ [d.target] := by
  induction ds with
  | nil => rfl
  | cons first ds ih =>
      by_cases hfirst : first.target = d.target
      · rw [add, if_pos hfirst, List.map_cons, List.map_cons, hfirst, if_pos List.mem_cons_self]
      · rw [add, if_neg hfirst, List.map_cons, List.map_cons, ih]
        by_cases hmem : d.target ∈ ds.map Directive.target
        · rw [if_pos hmem, if_pos (List.mem_cons_of_mem _ hmem)]
        · have hnew : d.target ∉ first.target :: ds.map Directive.target := by
            rw [List.mem_cons, not_or]
            exact ⟨Ne.symm hfirst, hmem⟩
          rw [if_neg hmem, if_neg hnew, List.cons_append]

/-- The names in a table stay different. -/
theorem nodup_add (h : (ds.map Directive.target).Nodup) (d : Directive) :
    ((add ds d).map Directive.target).Nodup := by
  rw [map_target_add]
  split
  · exact h
  · next hnew =>
      rw [← List.concat_eq_append]
      exact h.concat hnew

/-- **Adding a directive** takes away the one with its name and no other. -/
theorem mem_add_iff (h : (ds.map Directive.target).Nodup) :
    e ∈ add ds d ↔ e = d ∨ e ∈ ds ∧ e.target ≠ d.target := by
  induction ds with
  | nil => simp [add]
  | cons first ds ih =>
      rw [List.map_cons, List.nodup_cons] at h
      by_cases hfirst : first.target = d.target
      · have hrest : ∀ e ∈ ds, e.target ≠ d.target := fun e he htarget =>
          h.1 (hfirst ▸ htarget ▸ List.mem_map_of_mem he)
        rw [add, if_pos hfirst, List.mem_cons, List.mem_cons]
        refine or_congr_right ⟨fun he => ⟨Or.inr he, hrest e he⟩, ?_⟩
        rintro ⟨rfl | he, hne⟩
        · exact absurd hfirst hne
        · exact he
      · rw [add, if_neg hfirst, List.mem_cons, List.mem_cons, ih h.2]
        constructor
        · rintro (rfl | rfl | ⟨he, hne⟩)
          · exact Or.inr ⟨Or.inl rfl, hfirst⟩
          · exact Or.inl rfl
          · exact Or.inr ⟨Or.inr he, hne⟩
        · rintro (rfl | ⟨rfl | he, hne⟩)
          · exact Or.inr (Or.inl rfl)
          · exact Or.inl rfl
          · exact Or.inr (Or.inr ⟨he, hne⟩)

theorem nodup_foldl_add (news : List Directive) (h : (ds.map Directive.target).Nodup) :
    ((news.foldl add ds).map Directive.target).Nodup := by
  induction news generalizing ds with
  | nil => exact h
  | cons d news ih => exact ih (nodup_add h d)

/-- **Adding directives to a table**: those that they come to alone, and those of the table whose names
they do not have. -/
theorem mem_foldl_add_iff (news : List Directive) (h : (ds.map Directive.target).Nodup) :
    e ∈ news.foldl add ds
      ↔ e ∈ news.foldl add [] ∨ e ∈ ds ∧ e.target ∉ news.map Directive.target := by
  induction news using List.reverseRecOn with
  | nil => simp
  | append_singleton news d ih =>
      rw [List.foldl_concat, List.foldl_concat, mem_add_iff (nodup_foldl_add news h),
        mem_add_iff (nodup_foldl_add news (by simp)), ih, List.map_append, List.map_singleton,
        List.mem_append, List.mem_singleton]
      tauto

/-- Directives that come to nothing of a name do not have it. -/
theorem mem_map_target_foldl_add (news : List Directive) {target : Option (List Char)} :
    target ∈ (news.foldl add []).map Directive.target ↔ target ∈ news.map Directive.target := by
  induction news using List.reverseRecOn with
  | nil => rfl
  | append_singleton news d ih =>
      rw [List.foldl_concat, map_target_add, List.map_append, List.map_singleton, List.mem_append,
        List.mem_singleton, ← ih]
      split
      · next hmem => exact ⟨Or.inl, fun h => h.elim id fun heq => heq ▸ hmem⟩
      · rw [List.mem_append, List.mem_singleton]

end Filter

/-! ## Which directive decides -/

namespace Directive

variable {d : Directive} {part : List Char}

/-- A directive for a part by a shorter name than the part's own has less weight. -/
theorem weight_lt_of_covers (hcovers : d.covers part = true) (hpart : part ≠ [])
    (htarget : d.target ≠ some part) : d.weight < (String.ofList part).utf8ByteSize := by
  unfold covers at hcovers
  unfold weight
  cases hd : d.target with
  | none => simpa [Nat.pos_iff_ne_zero] using hpart
  | some name =>
      rw [hd] at hcovers
      obtain ⟨rest, rfl⟩ := List.isPrefixOf_iff_prefix.1 hcovers
      have hrest : rest ≠ [] := by
        rintro rfl
        exact htarget (by rw [hd, List.append_nil])
      have hpositive : 0 < (String.ofList rest).utf8ByteSize := by
        simpa [Nat.pos_iff_ne_zero] using hrest
      rw [String.ofList_append, String.utf8ByteSize_append]
      show (String.ofList name).utf8ByteSize < _
      omega

end Directive

namespace Filter

/-- What decides for a part is a directive of the filter that covers it, and none that covers it has more
weight. -/
theorem exists_deciding {f : Filter} {part : List Char} {d : Directive} (hd : d ∈ f.directives)
    (hcovers : d.covers part = true) :
    ∃ e ∈ f.directives, e.covers part = true ∧ d.weight ≤ e.weight
      ∧ f.ceilingOf part = e.ceiling := by
  have heffective : f.effective = f.directives.mergeSort fun a b => a.weight ≤ b.weight := by
    unfold effective
    rw [if_neg]
    rw [List.isEmpty_iff]
    exact List.ne_nil_of_mem hd
  have hsorted : f.effective.reverse.Pairwise fun a b => b.weight ≤ a.weight := by
    rw [List.pairwise_reverse, heffective]
    refine (List.pairwise_mergeSort ?_ ?_ f.directives).imp fun hab => of_decide_eq_true hab
    · intro a b c hab hbc
      exact decide_eq_true (Nat.le_trans (of_decide_eq_true hab) (of_decide_eq_true hbc))
    · intro a b
      rw [Bool.or_eq_true, decide_eq_true_iff, decide_eq_true_iff]
      exact Nat.le_total _ _
  have hmem : ∀ e, e ∈ f.effective.reverse ↔ e ∈ f.directives := by
    intro e
    rw [List.mem_reverse, heffective, List.mem_mergeSort]
  obtain ⟨e, hfind⟩ := Option.isSome_iff_exists.1
    (List.find?_isSome.2 ⟨d, (hmem d).2 hd, hcovers⟩ :
      (f.effective.reverse.find? (·.covers part)).isSome = true)
  have hceiling : f.ceilingOf part = e.ceiling := by
    unfold ceilingOf
    rw [hfind]
  have hecovers : e.covers part = true := by simpa using List.find?_some hfind
  refine ⟨e, (hmem e).1 (List.mem_of_find?_eq_some hfind), hecovers, ?_, hceiling⟩
  -- all that stand before the first that covers the part do not cover it, so `d` comes later
  obtain ⟨-, before, after, hsplit, hbefore⟩ := List.find?_eq_some_iff_append.1 hfind
  have hd := (hmem d).2 hd
  rw [hsplit] at hsorted hd
  rcases List.mem_append.1 hd with hd | hd
  · have hnot := hbefore d hd
    rw [hcovers] at hnot
    cases hnot
  · rcases List.mem_cons.1 hd with rfl | hd
    · exact Nat.le_refl _
    · exact (List.pairwise_cons.1 (List.pairwise_append.1 hsorted).2.1).1 d hd

/-- **A directive by the very name of a part decides for it.** -/
theorem ceilingOf_of_target {f : Filter} (hnames : (f.directives.map Directive.target).Nodup)
    {part : List Char} (hpart : part ≠ []) {d : Directive} (hd : d ∈ f.directives)
    (htarget : d.target = some part) : f.ceilingOf part = d.ceiling := by
  have hcovers : d.covers part = true := by
    unfold Directive.covers
    rw [htarget]
    exact List.isPrefixOf_iff_prefix.2 (List.prefix_refl part)
  obtain ⟨e, he, hecovers, hweight, hceiling⟩ := exists_deciding hd hcovers
  have hown : d.weight = (String.ofList part).utf8ByteSize := by
    unfold Directive.weight
    rw [htarget]
    rfl
  have hetarget : e.target = some part := by
    by_contra hne
    have hless := Directive.weight_lt_of_covers hecovers hpart hne
    omega
  rw [hceiling, List.inj_on_of_nodup_map hnames he hd (hetarget.trans htarget.symm)]

/-! ## Reading filter texts -/

/-- **What a further text does to a filter**: directives of its own are added, and its own pattern is
asked for. -/
theorem exists_extend (text : List Char) :
    ∃ (news : List Directive) (required : Option Text.Pattern) (faults : List FilterFault),
      ∀ f : Filter,
      f.extend text = ({ directives := news.foldl add f.directives, required }, faults) := by
  obtain ⟨list, rest, hsplit⟩ := List.exists_cons_of_ne_nil (Separated.split_ne_nil '/' text)
  by_cases hslashes : rest.length > 1
  · refine ⟨[], none, [.tooManySlashes text], fun f => ?_⟩
    unfold extend
    rw [hsplit]
    exact if_pos hslashes
  · let readings := (Directive.texts list).map Directive.read
    let patterns := rest.map readPattern
    refine ⟨readings.filterMap Except.toOption, (patterns.filterMap Except.toOption).head?,
      readings.filterMap faultOf? ++ patterns.filterMap faultOf?, fun f => ?_⟩
    unfold extend
    rw [hsplit]
    exact if_neg hslashes

/-- The filter of a text alone. -/
def alone (text : String) : Filter := (extend {} text.toList).1

/-- **A text on the command line** against the text that is in force before it. -/
theorem exists_ofTexts (commandLine : String) :
    ∃ news : List Directive, (alone commandLine).directives = news.foldl add []
      ∧ ∀ fromVariable, ∃ before : List Directive,
        before = (alone (fromVariable.getD usualText)).directives
        ∧ (before.map Directive.target).Nodup
        ∧ (ofTexts fromVariable (some commandLine)).1
          = { directives := news.foldl add before, required := (alone commandLine).required } := by
  obtain ⟨news, required, faults, hextend⟩ := exists_extend commandLine.toList
  refine ⟨news, by rw [alone, hextend], fun fromVariable => ⟨_, rfl, ?_, ?_⟩⟩
  · obtain ⟨olds, required, faults, hextend⟩ := exists_extend (fromVariable.getD usualText).toList
    rw [alone, hextend]
    exact nodup_foldl_add olds (by simp)
  · show (((alone (fromVariable.getD usualText)).extend commandLine.toList).1 : Filter) = _
    rw [alone, alone, hextend, hextend]

/-- Whether a letter may stand in the name of a part: a blank or a separator may not. -/
def isPartLetter (c : Char) : Bool := !(Text.isBlank c || [',', '=', '/'].contains c)

/-- Whether a filter text can spell the name of a part in a directive: it is not empty, and has only such
letters. So it is with every path of modules. -/
def IsPartName (part : List Char) : Prop := part ≠ [] ∧ part.all isPartLetter = true

/-- The text of a directive for a part. -/
def spell (part : List Char) (ceiling : Ceiling) : List Char := part ++ '=' :: ceiling.name.toList

theorem not_mem_of_all {text : List Char} (h : text.all isPartLetter = true) {c : Char}
    (hc : isPartLetter c = false) : c ∉ text := by
  intro hmem
  have hletter := List.all_eq_true.1 h c hmem
  rw [hc] at hletter
  cases hletter

theorem isBlank_of_all {text : List Char} (h : text.all isPartLetter = true) {c : Char}
    (hc : c ∈ text) : Text.isBlank c = false := by
  have hletter := List.all_eq_true.1 h c hc
  unfold isPartLetter at hletter
  rw [Bool.not_eq_true', Bool.or_eq_false_iff] at hletter
  exact hletter.1

/-- The name of a ceiling is read as that ceiling, and could be the name of a part. -/
theorem ofName?_name (ceiling : Ceiling) :
    Ceiling.ofName? ceiling.name.toList = some ceiling ∧ IsPartName ceiling.name.toList := by
  unfold IsPartName
  rcases ceiling with _ | _ | _ | _ | _ | _ <;> decide

/-- A directive is spelled without a blank, and of the separators only with the one before its level. -/
theorem not_mem_spell {part : List Char} (hpart : IsPartName part) (ceiling : Ceiling) {c : Char}
    (hc : isPartLetter c = false) (hne : c ≠ '=') : c ∉ spell part ceiling := by
  unfold spell
  rw [List.mem_append, List.mem_cons]
  rintro (hmem | hmem | hmem)
  · exact not_mem_of_all hpart.2 hc hmem
  · exact hne hmem
  · exact not_mem_of_all (ofName?_name ceiling).2.2 hc hmem

theorem read_spell {part : List Char} (hpart : IsPartName part) (ceiling : Ceiling) :
    Directive.read (spell part ceiling) = .ok ⟨some part, ceiling⟩ := by
  obtain ⟨hread, hne, hletters⟩ := ofName?_name ceiling
  have hlevel : Text.trim ceiling.name.toList = ceiling.name.toList :=
    Text.trim_eq_self fun c hc => isBlank_of_all hletters hc
  unfold Directive.read spell
  rw [Separated.split_append_cons '=' part _ (not_mem_of_all hpart.2 (by decide)),
    Separated.split_eq_singleton '=' _ (not_mem_of_all hletters (by decide))]
  simp only [hlevel, hread, List.isEmpty_iff, if_neg hne]

/-- **The text of a directive is read as that directive.** -/
theorem directives_alone_spell {part : List Char} (hpart : IsPartName part) (ceiling : Ceiling) :
    (alone (String.ofList (spell part ceiling))).directives = [⟨some part, ceiling⟩] := by
  have htrim : Text.trim (spell part ceiling) = spell part ceiling := by
    refine Text.trim_eq_self fun c hc => Bool.eq_false_iff.2 fun hblank => ?_
    have hletter : isPartLetter c = false := by
      unfold isPartLetter
      rw [hblank]
      rfl
    refine not_mem_spell hpart ceiling hletter ?_ hc
    rintro rfl
    exact absurd hblank (by decide)
  have htexts : Directive.texts (spell part ceiling) = [spell part ceiling] := by
    have hne : spell part ceiling ≠ [] := by simp [spell]
    unfold Directive.texts
    rw [Separated.split_eq_singleton ',' _ (not_mem_spell hpart ceiling (by decide) (by decide)),
      List.map_singleton, htrim, List.filter_cons_of_pos (by simpa using hne)]
    rfl
  unfold alone extend
  rw [String.toList_ofList,
    Separated.split_eq_singleton '/' _ (not_mem_spell hpart ceiling (by decide) (by decide))]
  simp [htexts, read_spell hpart, Except.toOption, add]

/-! ## What the command line decides -/

/-- Whether a filter text has a directive by the very name of a part. -/
def Names (text : String) (part : List Char) : Prop :=
  ∃ d ∈ (alone text).directives, d.target = some part

/-- Whether a filter text asks for no pattern, or for one that occurs in the text of a record. -/
def admits (filterText : String) (text : List Char) : Bool :=
  (alone filterText).required.all (·.occursIn text)

variable {part : List Char}

/-- A directive of the command line by the name of a part decides for it, whatever the variable says. -/
theorem passes_of_named (hpart : part ≠ []) {commandLine : String} {d : Directive}
    (hd : d ∈ (alone commandLine).directives) (htarget : d.target = some part)
    (fromVariable : Option String) (level : Level) (text : List Char) :
    (ofTexts fromVariable (some commandLine)).1.passes part level text
      = (d.ceiling.allows level && admits commandLine text) := by
  obtain ⟨news, halone, hofTexts⟩ := exists_ofTexts commandLine
  obtain ⟨before, -, hnames, hfilter⟩ := hofTexts fromVariable
  have hmem : d ∈ news.foldl add before :=
    (mem_foldl_add_iff news hnames).2 (Or.inl (halone ▸ hd))
  unfold passes
  rw [hfilter, ceilingOf_of_target (nodup_foldl_add news hnames) hpart hmem htarget]
  rfl

/-- Without one, a directive of the variable by that name decides. -/
theorem passes_of_not_named (hpart : IsPartName part) {commandLine : String}
    (hnamed : ¬ Names commandLine part) (ceiling : Ceiling) (level : Level) (text : List Char) :
    (ofTexts (some (String.ofList (spell part ceiling))) (some commandLine)).1.passes part level text
      = (ceiling.allows level && admits commandLine text) := by
  obtain ⟨news, halone, hofTexts⟩ := exists_ofTexts commandLine
  obtain ⟨before, hbefore, hnames, hfilter⟩ :=
    hofTexts (some (String.ofList (spell part ceiling)))
  rw [Option.getD_some, directives_alone_spell hpart] at hbefore
  have hleft : some part ∉ news.map Directive.target := by
    rw [← mem_map_target_foldl_add, ← halone, List.mem_map]
    exact hnamed
  have hmem : (⟨some part, ceiling⟩ : Directive) ∈ news.foldl add before :=
    (mem_foldl_add_iff news hnames).2 (Or.inr ⟨by rw [hbefore]; exact List.mem_cons_self, hleft⟩)
  unfold passes
  rw [hfilter, ceilingOf_of_target (nodup_foldl_add news hnames) hpart.1 hmem rfl]
  rfl

/-- **When the filter of the command line overrides the variable.** A record of a part is let through
under all values of the variable or under none exactly if the command line has a directive by the very
name of the part, or a pattern that does not occur in the record. Such a directive decides for the part,
with the pattern of the command line and nothing else. -/
theorem commandLine_decides_iff (hpart : IsPartName part) (commandLine : String) (level : Level)
    (text : List Char) :
    ((∀ fromVariable fromVariable' : Option String,
        (ofTexts fromVariable (some commandLine)).1.passes part level text
          = (ofTexts fromVariable' (some commandLine)).1.passes part level text)
      ↔ Names commandLine part ∨ admits commandLine text = false)
    ∧ ∀ d ∈ (alone commandLine).directives, d.target = some part → ∀ fromVariable,
      (ofTexts fromVariable (some commandLine)).1.passes part level text
        = (d.ceiling.allows level && admits commandLine text) := by
  refine ⟨⟨fun hsame => ?_, ?_⟩, fun d hd htarget fromVariable =>
    passes_of_named hpart.1 hd htarget fromVariable level text⟩
  · by_cases hnamed : Names commandLine part
    · exact Or.inl hnamed
    · -- a variable that silences the part and one that lets everything through agree
      have hagree := hsame (some (String.ofList (spell part .off)))
        (some (String.ofList (spell part .everything)))
      rw [passes_of_not_named hpart hnamed, passes_of_not_named hpart hnamed] at hagree
      have hall : Ceiling.everything.allows level = true := by cases level <;> rfl
      rw [hall, Bool.true_and] at hagree
      exact Or.inr hagree.symm
  · rintro (⟨d, hd, htarget⟩ | hadmits) fromVariable fromVariable'
    · rw [passes_of_named hpart.1 hd htarget, passes_of_named hpart.1 hd htarget]
    · obtain ⟨news, -, hofTexts⟩ := exists_ofTexts commandLine
      have hrefused : ∀ value, (ofTexts value (some commandLine)).1.passes part level text = false := by
        intro value
        obtain ⟨before, -, -, hfilter⟩ := hofTexts value
        unfold passes
        rw [hfilter, show (alone commandLine).required.all (·.occursIn text) = false from hadmits,
          Bool.and_false]
      rw [hrefused, hrefused]

/-- The command line has a directive for the announcements of commands and a pattern that occurs in this
one, so it is let through whatever the variable says of that part or of others. -/
theorem commandLine_decides_named :
    let commandLine := "off,dualcc_driver::exec=trace,find_tool/cl.ng"
    let part := Part.command.name.toList
    let text := "Running /bin/clang -c a.c".toList
    let passed := fun fromVariable : Option String =>
      (ofTexts fromVariable (some commandLine)).1.passes part .trace text
    IsPartName part ∧ Names commandLine part
    ∧ (∀ fromVariable, passed fromVariable = passed (some "dualcc_driver::exec=off"))
    ∧ ∀ fromVariable, passed fromVariable = true := by
  intro commandLine part text passed
  have hpart : IsPartName part := ⟨by decide, by decide⟩
  have hd : (⟨some part, .everything⟩ : Directive) ∈ (alone commandLine).directives := by
    decide +kernel
  obtain ⟨hsame, hdecides⟩ := commandLine_decides_iff hpart commandLine .trace text
  refine ⟨hpart, ⟨_, hd, rfl⟩, fun fromVariable => hsame.2 (Or.inl ⟨_, hd, rfl⟩) fromVariable _,
    fun fromVariable => ?_⟩
  refine (hdecides _ hd rfl fromVariable).trans ?_
  decide +kernel

/-- **The variable outranks the command line.** Told to show errors only, the program shows what it looked
for if the variable asks for that part of it, and does not if the variable is unset. -/
theorem variable_outranks_commandLine :
    let record : Record := ⟨.debug, .search, "Searching for 'clang':\n"⟩
    let shown := fun fromVariable : Option String =>
      (ofTexts fromVariable (some "error")).1.shows record
    shown none = false ∧ shown (some "find_tool=debug") = true
    ∧ ¬ ∀ fromVariable fromVariable', shown fromVariable = shown fromVariable' := by
  intro record shown
  let search : Directive := ⟨some "find_tool".toList, .down .debug⟩
  have hfilter : (ofTexts (some "find_tool=debug") (some "error")).1
      = { directives := [search, ⟨none, .usual⟩] } := by decide +kernel
  have hunset : shown none = false := by decide +kernel
  have hset : shown (some "find_tool=debug") = true := by
    show (ofTexts (some "find_tool=debug") (some "error")).1.passes _ .debug _ = true
    rw [hfilter]
    have hmem : search ∈ ({ directives := [search, ⟨none, .usual⟩] } : Filter).directives :=
      List.mem_cons_self
    have hcovers : search.covers record.part.name.toList = true := by decide +kernel
    -- both directives are for the part, and the one of the variable has the longer name
    obtain ⟨e, he, -, hweight, hceiling⟩ := exists_deciding hmem hcovers
    unfold passes
    rw [hceiling]
    rcases List.mem_cons.1 he with rfl | he
    · rfl
    · rw [List.mem_singleton.1 he] at hweight
      exact absurd hweight (by decide +kernel)
  refine ⟨hunset, hset, fun hsame => ?_⟩
  have hequal := hsame none (some "find_tool=debug")
  rw [hunset, hset] at hequal
  cases hequal

end Filter

end TwinBuild.Log
