import TwinBuild.Proofs.CompilerSearch
import TwinBuild.Proofs.Extensions
import TwinBuild.Proofs.Respellings

/-!
# What a toolchain directory confines

With a toolchain directory and no explicit path the compiler is looked for under the directory's path
and the name of its executable, which is any text. The name is followed from the directory, so it is
found directly in it exactly if the name leads one name down from there: a plain name does, a name that
begins at the root leads away, and one with the directory above in it may lead anywhere. The search list
is never what finds it.

Main statement: `Language.toolchain_confines_iff`.
-/

namespace TwinBuild

open Octets (slash)

/-! ## Paths that end in no step -/

namespace Files

/-- A walk that ends in a full stop ends at a directory. -/
theorem walk_of_current {t : Files} {here place : Place} {pieces : List Octets}
    {node : Option Node} (h : t.walk here (pieces ++ [Path.currentName]) = .ok (place, node)) :
    node = some .directory := by
  induction pieces generalizing here with
  | nil =>
      rw [List.nil_append] at h
      unfold walk at h
      split at h
      · cases h
      · cases h
      · next hhere =>
        rw [if_pos rfl] at h
        cases h
        exact hhere
  | cons piece pieces ih =>
      rw [List.cons_append] at h
      unfold walk at h
      split at h
      · cases h
      · cases h
      split at h
      · exact ih h
      split at h
      · exact ih h
      split at h
      · cases h
      split at h
      · next hrest => simp at hrest
      · cases h
      · exact ih h

/-- A path whose last piece is a full stop names a directory if anything. -/
theorem locate_of_current {t : Files} {start : CurrentDirectory} {p : Path}
    (habsolute : p.isAbsolute = true) {pieces : List Octets}
    (hsteps : steps p = pieces ++ [Path.currentName]) {place : Place} {node : Option Node}
    (h : t.locate start p = .ok (place, node)) : node = some .directory := by
  unfold locate at h
  rw [if_pos habsolute, hsteps] at h
  split at h
  · cases h
  split at h
  · cases h
  · exact walk_of_current h

end Files

namespace Path

open Octets (dot)
open Separated (split split_ne_nil)

/-! ## Joined paths -/

/-- What is joined to a path that is not empty stands after a slash. -/
theorem exists_text_join_slash {p q : Path} (hp : p.text ≠ []) (hq : q.isAbsolute = false) :
    ∃ before, (p.join q).text = before ++ slash :: q.text := by
  rcases join_cases p q hq with ⟨hnil, -⟩ | ⟨before, -, hjoin⟩ | ⟨-, hjoin⟩
  · exact absurd hnil hp
  · exact ⟨before, by rw [hjoin]⟩
  · exact ⟨p.text, by rw [hjoin]⟩

/-- A path that is not empty has a component. -/
theorem components_ne_nil {p : Path} (hp : p.text ≠ []) : p.components ≠ [] := by
  intro hnil
  rw [components_eq, List.append_eq_nil_iff, List.map_eq_nil_iff] at hnil
  obtain ⟨hanchor, hsteps⟩ := hnil
  rcases anchor_cases p with ⟨-, habsolute, -⟩ | ⟨-, -, -, hcurrent, -⟩ | ⟨-, hrelative, hplain, -⟩
  · rw [habsolute] at hanchor
    cases hanchor
  · rw [hcurrent] at hanchor
    split at hanchor <;> cases hanchor
  · -- the first piece is not empty, so it would be a full stop, which counts at the beginning
    rcases htext : p.text with _ | ⟨b, rest⟩
    · exact hp htext
    have hb : b ≠ slash := by simpa [isAbsolute, htext] using hrelative
    obtain ⟨first, parts, hsplit⟩ := List.exists_cons_of_ne_nil (split_ne_nil slash rest)
    have hpieces : split slash p.text = (b :: first) :: parts := by
      rw [htext, split, if_neg hb, hsplit]
    have hfirst := List.filter_eq_nil_iff.1 hsteps (b :: first) (by rw [hpieces]; simp)
    have hdot : b :: first = [dot] := by simpa [isStep, currentName] using hfirst
    obtain ⟨rfl, rfl⟩ := List.cons.inj hdot
    unfold startsAtCurrent at hplain
    rcases split_eq_nil_cons hsplit with rfl | hhead
    · rw [htext] at hplain
      cases hplain
    · obtain ⟨after, rfl⟩ := List.head?_eq_some_iff.1 hhead
      rw [htext] at hplain
      cases hplain

/-- A name with a step, joined to a path that is not empty, is compound. -/
theorem isCompound_join {p q : Path} (hp : p.text ≠ []) (hq : q.isAbsolute = false)
    (hsteps : q.steps ≠ []) : (p.join q).isCompound = true := by
  have hcomponents := List.length_pos_iff.2 (components_ne_nil hp)
  have hlength := List.length_pos_iff.2 hsteps
  refine decide_eq_true_iff.2 ?_
  rw [components_join hp hq, List.length_append, List.length_map]
  omega

/-! ## Paths under the current directory -/

/-- A path under a place goes on from it by its steps. -/
theorem under_eq_extend {p : Path} (h : p.isAbsolute = false) (place : Place) :
    p.under place = place.path.extend (p.steps.map stepOf) := by
  have hcurrent : ∀ pieces : List Octets,
      (pieces.map stepOf).dropWhile (· == .current) = pieces.map stepOf := by
    intro pieces
    cases pieces with
    | nil => rfl
    | cons piece pieces =>
        rw [List.map_cons]
        unfold stepOf
        split <;> rfl
  have hdrop : p.components.dropWhile (· == .current) = p.steps.map stepOf := by
    rw [components_eq, h, if_neg Bool.false_ne_true]
    cases p.startsAtCurrent with
    | true => exact hcurrent p.steps
    | false => exact hcurrent p.steps
  have hpath : ∀ c : Component, (⟨c.text⟩ : Path) = c.path := fun c => by cases c <;> rfl
  unfold under extend
  rw [if_neg (by rw [h]; exact Bool.false_ne_true), hdrop]
  simp only [hpath]

/-- It begins at the root, and has the steps of the place before its own. -/
theorem steps_under {p : Path} (h : p.isAbsolute = false) {place : Place}
    (hplace : ∀ name ∈ place, Place.IsName name) :
    (p.under place).isAbsolute = true ∧ (p.under place).steps = place ++ p.steps := by
  obtain ⟨habsolute, hsteps⟩ := extend_steps (fun _ => of_mem_steps (p := p)) place.path
  rw [under_eq_extend h]
  exact ⟨habsolute, by rw [hsteps, Place.steps_path hplace]⟩

theorem isAbsolute_under (p : Path) (place : Place) : (p.under place).isAbsolute = true := by
  by_cases h : p.isAbsolute = true
  · rwa [under, if_pos h]
  · rw [under_eq_extend (Bool.eq_false_iff.2 h)]
    exact (extend_steps (fun _ => of_mem_steps (p := p)) place.path).1

end Path

namespace Host

/-- **A path with no step after a slash names no file**: it ends in a slash, which wants a directory, or
in a full stop. -/
theorem isExecutable_of_no_step {h : Host} {p : Path} (habsolute : p.isAbsolute = true)
    {before rest : Octets} (htext : p.text = before ++ slash :: rest)
    (hrest : (⟨rest⟩ : Path).steps = []) : h.isExecutable p = false := by
  unfold isExecutable
  split
  · next place f hlookup =>
    obtain ⟨-, hlocate, hwants⟩ := lookup_eq_ok hlookup
    have hwants := hwants f rfl
    obtain ⟨init, last, hsplit⟩ := (List.eq_nil_or_concat _).resolve_left
      (Separated.split_ne_nil slash rest)
    rw [List.concat_eq_append] at hsplit
    have hlast : last = [] ∨ last = Path.currentName := by
      have hnone := List.filter_eq_nil_iff.1 hrest last (by rw [hsplit]; simp)
      simpa [Path.isStep, or_iff_not_imp_left] using hnone
    rcases hlast with rfl | rfl
    · have hend : p.text.getLast? = some slash := by
        have hjoin := Separated.join_split slash rest
        rw [hsplit] at hjoin
        by_cases hinit : init = []
        · rw [htext, ← hjoin, hinit]
          exact List.getLast?_concat ..
        · rw [htext, ← hjoin, Separated.join_concat _ hinit, List.append_nil, ← List.cons_append,
            ← List.append_assoc]
          exact List.getLast?_concat ..
      rw [Files.wantsDirectory, hend] at hwants
      cases hwants
    · have hsteps : Files.steps p
          = (((Separated.split slash before ++ init).filter (· != [])) ++ [Path.currentName]) := by
        rw [Files.steps, htext, Separated.split_append_sep, hsplit, ← List.append_assoc,
          List.filter_append]
        rfl
      cases Files.locate_of_current habsolute hsteps hlocate
  · rfl

/-! ## Looking up a name in a directory -/

variable {h : Host} {name p : Path}

/-- With a single candidate, a look-up says whether it may be started. -/
theorem findExecutable_of_single (hcandidates : h.candidates name = .ok [p]) :
    h.findExecutable name = if h.isExecutable p then .ok p else .error .notFound := by
  unfold findExecutable
  rw [hcandidates]
  simp only [Bind.bind, Except.bind, List.find?_cons]
  cases h.isExecutable p <;> rfl

/-- Without a candidate that may be started, nothing is found. -/
theorem toOption_findExecutable_of_none
    (hnone : ∀ ps, h.candidates name = .ok ps → ∀ p ∈ ps, h.isExecutable p = false) :
    (h.findExecutable name).toOption = none := by
  unfold findExecutable
  cases hcandidates : h.candidates name with
  | error fault => rfl
  | ok ps =>
      have hfind : ps.find? h.isExecutable = none :=
        List.find?_eq_none.2 fun p hp => by rw [hnone ps hcandidates p hp]; exact Bool.false_ne_true
      simp only [Bind.bind, Except.bind, hfind]
      rfl

/-- A name without a step is not found in a directory that is looked for on the search list. -/
theorem toOption_findExecutable_of_no_step {place : Place} (hhere : h.currentPlace = .ok place)
    {dir exe : Path} (hdir : dir.text ≠ []) (hexe : exe.isAbsolute = false)
    (hrelative : (dir.join exe).isAbsolute = false) (hsimple : (dir.join exe).isCompound = false)
    (hsteps : exe.steps = []) : (h.findExecutable (dir.join exe)).toOption = none := by
  refine toOption_findExecutable_of_none fun ps hps p hp => ?_
  unfold candidates at hps
  rw [hrelative, if_neg Bool.false_ne_true, hsimple, Bool.false_and,
    if_neg Bool.false_ne_true] at hps
  cases hlist : h.valueOf searchVariable with
  | none =>
      rw [hlist] at hps
      cases hps
  | some list =>
      rw [hlist] at hps
      cases hps
      obtain ⟨entry, -, rfl⟩ := List.mem_map.1 hp
      obtain ⟨before, htext⟩ := Path.exists_text_join_slash hdir hexe
      obtain ⟨front, hfront⟩ := Path.exists_text_join (h.underHere (h.expanded ⟨entry⟩)) _ hrelative
      rw [htext, ← List.append_assoc] at hfront
      refine isExecutable_of_no_step ?_ hfront hsteps
      rw [Path.isAbsolute_join _ _ hrelative, underHere, hhere]
      exact Path.isAbsolute_under _ _

/-- **Where a name in a directory is looked for**: at one path, whatever the search list. It begins at
the root and leads where the name leads from the directory. Only a name without a step may be looked for
on the search list, and then it is not found. -/
theorem candidates_join {h : Host} {dir : Path} (exe : Path) (hdir : dir.text ≠ [])
    (hcwd : ∀ name ∈ h.cwd.place, Place.IsName name)
    (hhere : dir.isAbsolute = true ∨ h.cwd.lost = 0) :
    (∃ p, p.isAbsolute = true
      ∧ Place.resolve [] p = Place.resolve (Place.resolve h.cwd.place dir) exe
      ∧ ∀ h' : Host, h'.cwd = h.cwd → h'.candidates (dir.join exe) = .ok [p])
    ∨ (exe.steps = []
      ∧ ∀ h' : Host, h'.cwd = h.cwd → (h'.findExecutable (dir.join exe)).toOption = none) := by
  by_cases habsolute : exe.isAbsolute = true
  · refine Or.inl ⟨exe, habsolute, (Place.resolve_of_isAbsolute habsolute _).symm, fun h' _ => ?_⟩
    unfold candidates
    rw [show dir.join exe = exe from if_pos habsolute, if_pos habsolute]
  have hrelative := Bool.eq_false_iff.2 habsolute
  have hjoin := Place.resolve_join h.cwd.place dir exe hrelative
  have hbegins := Path.isAbsolute_join dir exe hrelative
  by_cases hroot : dir.isAbsolute = true
  · rw [hroot] at hbegins
    refine Or.inl ⟨dir.join exe, hbegins, ?_, fun h' _ => ?_⟩
    · rw [← hjoin, Place.resolve_of_isAbsolute hbegins h.cwd.place]
    · unfold candidates
      rw [if_pos hbegins]
  have hlost := hhere.resolve_left hroot
  have hunder : ∀ h' : Host, h'.cwd = h.cwd → h'.currentPlace = .ok h.cwd.place := by
    intro h' hcwd
    unfold currentPlace
    rw [hcwd, if_pos hlost]
  rw [Bool.eq_false_iff.2 hroot] at hbegins
  by_cases hcompound : (dir.join exe).isCompound = true
  · obtain ⟨hfrom, hsteps⟩ := Path.steps_under hbegins hcwd
    refine Or.inl ⟨(dir.join exe).under h.cwd.place, hfrom, ?_, fun h' hsame => ?_⟩
    · rw [← hjoin]
      refine Path.resolve_of_steps hcwd hfrom ?_
      rw [hbegins, hsteps]
      rfl
    · unfold candidates underHere
      rw [hbegins, hcompound, hunder h' hsame]
      rfl
  · have hsimple := Bool.eq_false_iff.2 hcompound
    have hsteps : exe.steps = [] := by
      by_contra hne
      exact hcompound (Path.isCompound_join hdir hrelative hne)
    exact Or.inr ⟨hsteps, fun h' hsame =>
      toOption_findExecutable_of_no_step (hunder h' hsame) hdir hrelative hbegins hsimple hsteps⟩

/-- A path is cleaned to the spelling of the place that it leads to, if it does not need the current
directory or that is not lost. -/
theorem absoluteClean_of_reachable {h : Host} {p : Path} (hp : p.text ≠ [])
    (hhere : p.isAbsolute = true ∨ h.cwd.lost = 0) :
    p.absoluteClean h.currentPlace = .ok (h.placeOf p).path := by
  unfold placeOf
  by_cases habsolute : p.isAbsolute = true
  · rw [Path.absoluteClean_of_isAbsolute habsolute,
      Place.resolve_of_isAbsolute habsolute h.cwd.place]
  · have hcurrent : h.currentPlace = .ok h.cwd.place := if_pos (hhere.resolve_left habsolute)
    rw [hcurrent]
    exact Path.absoluteClean_eq_ok.2 ⟨hp, Or.inr rfl, rfl⟩

section InDirectory

variable {dir : Path} (hdir : dir.text ≠ []) (hcwd : ∀ name ∈ h.cwd.place, Place.IsName name)
  (hhere : dir.isAbsolute = true ∨ h.cwd.lost = 0)

include hdir hcwd hhere

/-- **What is found in a directory** is where the name leads from it, so it is directly in the directory
exactly if the name leads one name down. -/
theorem exists_isDirectlyIn_iff {exe compiler : Path}
    (hfound : (h.findExecutable (dir.join exe)).toOption = some compiler) :
    ∃ place home, compiler.absoluteClean h.currentPlace = .ok place
      ∧ dir.absoluteClean h.currentPlace = .ok home
      ∧ (place.IsDirectlyIn home
        ↔ ∃ step, Place.resolve (h.placeOf dir) exe = h.placeOf dir ++ [step]) := by
  rcases candidates_join exe hdir hcwd hhere with ⟨p, hbegins, hleads, hcandidates⟩ | ⟨-, hnone⟩
  · rw [findExecutable_of_single (hcandidates h rfl)] at hfound
    split at hfound
    · cases hfound
      refine ⟨_, _, Path.absoluteClean_of_isAbsolute hbegins _,
        absoluteClean_of_reachable hdir hhere, ?_⟩
      have hplace := Place.isName_of_mem_resolve hcwd dir
      rw [hleads]
      exact Place.isDirectlyIn_path_iff (Place.isName_of_mem_resolve hplace exe) hplace
    · cases hfound
  · rw [hnone h rfl] at hfound
    cases hfound

/-- **What is found in a directory does not depend on the environment.** -/
theorem findExecutable_join_same (exe : Path) {h' : Host} (hfiles : h'.files = h.files)
    (hsame : h'.cwd = h.cwd) :
    (h'.findExecutable (dir.join exe)).toOption = (h.findExecutable (dir.join exe)).toOption
    ∧ (exe.steps ≠ [] → h'.findExecutable (dir.join exe) = h.findExecutable (dir.join exe)) := by
  rcases candidates_join exe hdir hcwd hhere with ⟨p, -, -, hcandidates⟩ | ⟨hsteps, hnone⟩
  · have hexecutable : h'.isExecutable p = h.isExecutable p := by
      unfold isExecutable lookup
      rw [hfiles, hsame]
    have heq : h'.findExecutable (dir.join exe) = h.findExecutable (dir.join exe) := by
      rw [findExecutable_of_single (hcandidates h' hsame),
        findExecutable_of_single (hcandidates h rfl), hexecutable]
    exact ⟨congrArg Except.toOption heq, fun _ => heq⟩
  · exact ⟨(hnone h' hsame).trans (hnone h rfl).symm, fun hne => absurd hsteps hne⟩

end InDirectory

/-- An environment without the search list has its other variables. -/
theorem valueOf_filter {h : Host} {key : Octets} (hkey : key ≠ searchVariable) :
    ({ h with environment := h.environment.filter (·.1 ≠ searchVariable) } : Host).valueOf key
      = h.valueOf key := by
  unfold valueOf
  rw [List.find?_filter]
  congr 2
  funext entry
  by_cases hentry : entry.1 = key
  · simp [hentry, hkey]
  · simp [hentry]

end Host

namespace Settings

/-- A toolchain directory that the environment chooses is not the empty path. -/
theorem text_ne_nil_of_toolchain {lookup : Octets → Option Octets} {dir : Path}
    (h : (ofLookup lookup).toolchain = some dir) : dir.text ≠ [] := by
  obtain ⟨text, hchosen, rfl⟩ := Option.map_eq_some_iff.1 h
  have hne := (Option.filter_eq_some_iff.1 hchosen).2
  simpa using hne

/-- Without an explicit path and with a toolchain directory, the search is for the name in it. -/
theorem search_of_toolchain (settings : Settings) {dir : Path} (hdir : settings.toolchain = some dir)
    {h : Host} {language : Language}
    (hunset : h.valueOf (Octets.ofString language.pathVariable) = none) :
    settings.search h language
      = ([.unreadable (Octets.ofString language.pathVariable) .unset,
          .name (dir.join (settings.executable language)).text
            (h.findExecutable (dir.join (settings.executable language)))],
        (h.findExecutable (dir.join (settings.executable language))).toOption) := by
  have hlocation : settings.location language = dir.join (settings.executable language) := by
    unfold location
    rw [hdir]
  have hprobe : (Strategy.environment (Octets.ofString language.pathVariable)).probe h
      = .unreadable (Octets.ofString language.pathVariable) .unset := by
    simp only [Strategy.probe, hunset]
  rw [settings.search_of_unreadable hprobe, hlocation]

end Settings

theorem toOption_mapError {ε ε' α : Type} (f : ε → ε') (x : Except ε α) :
    (x.mapError f).toOption = x.toOption := by
  cases x <;> rfl

namespace Language

variable {s : Session}

/-- Without an explicit path and with a toolchain directory, a compiler is what its name means in that
directory, and the fault in looking it up is what the log of a failed search ends with. -/
theorem run_findCompiler_of_toolchain (settings : Settings) {dir : Path}
    (hdir : settings.toolchain = some dir) {language : Language}
    (hunset : s.host.valueOf (Octets.ofString language.pathVariable) = none) :
    ((language.findCompiler settings.toolchain (Compilation.executableOf settings language)).run s).1
      = (s.host.findExecutable (dir.join (settings.executable language))).mapError fun fault =>
          Search.logText [.unreadable (Octets.ofString language.pathVariable) .unset,
            .name (dir.join (settings.executable language)).text (.error fault)] := by
  obtain ⟨log, hfind⟩ := Search.run_find language.usualExecutable
    (language.strategies settings.toolchain (Compilation.executableOf settings language)) s
  have hsearch := settings.search_of_toolchain hdir hunset
  rw [Settings.search] at hsearch
  unfold findCompiler
  rw [hfind, hsearch]
  cases s.host.findExecutable (dir.join (settings.executable language)) <;> rfl

/-- **What a toolchain directory confines.** No explicit path is set, and the toolchain directory is
there to look into: it begins at the root or the current directory is not lost. A compiler that is found
is directly in it, once both are made absolute, exactly if its name leads one name down from there, as
every plain name does. Which compiler is found does not depend on the search list; nor does the text of
a failure, unless the name has no step. -/
theorem toolchain_confines_iff {lookup : Octets → Option Octets} {dir : Path}
    (hdir : (Settings.ofLookup lookup).toolchain = some dir) (language : Language)
    (hunset : s.host.valueOf (Octets.ofString language.pathVariable) = none)
    (hcwd : ∀ name ∈ s.host.cwd.place, Place.IsName name)
    (hhere : dir.isAbsolute = true ∨ s.host.cwd.lost = 0) :
    let settings := Settings.ofLookup lookup
    let name := settings.executable language
    let found := fun s : Session => ((language.findCompiler settings.toolchain
      (Compilation.executableOf settings language)).run s).1
    (∀ compiler, found s = .ok compiler →
      ∃ place home, compiler.absoluteClean s.host.currentPlace = .ok place
        ∧ dir.absoluteClean s.host.currentPlace = .ok home
        ∧ (place.IsDirectlyIn home
          ↔ ∃ step, Place.resolve (s.host.placeOf dir) name = s.host.placeOf dir ++ [step])
        ∧ (Place.IsName name.text → place.IsDirectlyIn home))
    ∧ ∀ s' : Session, s'.host.files = s.host.files → s'.host.cwd = s.host.cwd →
      (∀ key ≠ Host.searchVariable, s'.host.valueOf key = s.host.valueOf key) →
      (found s').toOption = (found s).toOption ∧ (name.steps ≠ [] → found s' = found s) := by
  intro settings name found
  have hne := Settings.text_ne_nil_of_toolchain hdir
  refine ⟨fun compiler hfound => ?_, fun s' hfiles hsame hvariables => ?_⟩
  · have hlookup := congrArg Except.toOption hfound
    rw [show found s = _ from run_findCompiler_of_toolchain settings hdir hunset,
      toOption_mapError] at hlookup
    obtain ⟨place, home, hplace, hhome, hiff⟩ :=
      Host.exists_isDirectlyIn_iff hne hcwd hhere hlookup
    refine ⟨place, home, hplace, hhome, hiff, fun hplain => hiff.2 ⟨name.text, ?_⟩⟩
    exact Place.resolve_name hplain _
  · have hunset' : s'.host.valueOf (Octets.ofString language.pathVariable) = none := by
      rw [hvariables _ (by cases language <;> decide), hunset]
    obtain ⟨hoption, heq⟩ := Host.findExecutable_join_same hne hcwd hhere name hfiles hsame
    rw [show found s' = _ from run_findCompiler_of_toolchain settings hdir hunset',
      show found s = _ from run_findCompiler_of_toolchain settings hdir hunset]
    refine ⟨?_, fun hsteps => by rw [heq hsteps]⟩
    rw [toOption_mapError, toOption_mapError, hoption]

/-- Variables that choose the toolchain directory `tools` and the name of the C++ compiler in it. -/
def toolsLookup (name : Octets) (key : Octets) : Option Octets :=
  if key = Settings.toolchainVariable then some (Octets.ofString "tools")
  else if key = Settings.cxxNameVariable then some name
  else none

/-- A name after a full stop is found in a relative directory, with a search list and without. -/
theorem toolchain_confines_relative :
    let settings := Settings.ofLookup (toolsLookup (Octets.ofString "./clang"))
    let s := Compilation.twoCompilers []
    let s' : Session :=
      { s with host := { s.host with
          environment := s.host.environment.filter (·.1 ≠ Host.searchVariable) } }
    let found := fun s : Session => ((cxx.findCompiler settings.toolchain
      (Compilation.executableOf settings cxx)).run s).1
    found s = .ok (.ofString "/tools/clang") ∧ found s' = found s
    ∧ ∃ place home, (Path.ofString "/tools/clang").absoluteClean s.host.currentPlace = .ok place
      ∧ (Path.ofString "tools").absoluteClean s.host.currentPlace = .ok home
      ∧ place.IsDirectlyIn home := by
  intro settings s s' found
  have hfound : found s = .ok (.ofString "/tools/clang") := by decide +kernel
  have hdir : settings.toolchain = some (.ofString "tools") := by decide +kernel
  have hunset : s.host.valueOf (Octets.ofString cxx.pathVariable) = none := by decide +kernel
  obtain ⟨hconfines, hsearch⟩ := toolchain_confines_iff hdir cxx hunset
    (fun _ hname => absurd hname List.not_mem_nil) (Or.inr rfl)
  obtain ⟨place, home, hplace, hhome, hiff, -⟩ := hconfines _ hfound
  refine ⟨hfound, (hsearch s' rfl rfl ?_).2 (by decide +kernel), place, home, hplace, hhome,
    hiff.2 ⟨Octets.ofString "clang", by decide +kernel⟩⟩
  intro key hkey
  exact Host.valueOf_filter hkey

/-- **Names that lead out of the toolchain directory.** A name that begins at the root and one that goes
up find a compiler that is not in the directory. -/
theorem toolchain_does_not_confine :
    let s := Compilation.twoCompilers []
    ∀ name ∈ Flags.table ["/bin/cc", "../bin/cc"],
      let settings := Settings.ofLookup (toolsLookup name)
      settings.toolchain = some (.ofString "tools")
      ∧ s.host.valueOf (Octets.ofString cxx.pathVariable) = none
      ∧ ∃ compiler place home, ((cxx.findCompiler settings.toolchain
          (Compilation.executableOf settings cxx)).run s).1 = .ok compiler
        ∧ compiler.absoluteClean s.host.currentPlace = .ok place
        ∧ (Path.ofString "tools").absoluteClean s.host.currentPlace = .ok home
        ∧ place = .ofString "/bin/cc" ∧ home = .ofString "/tools"
        ∧ ¬ place.IsDirectlyIn home := by
  have hapart : ¬ (Path.ofString "/bin/cc").IsDirectlyIn (.ofString "/tools") := by
    have hcc : (Path.ofString "/bin/cc").components
        = [.root, .normal (Octets.ofString "bin"), .normal (Octets.ofString "cc")] := by
      decide +kernel
    have htools : (Path.ofString "/tools").components
        = [.root, .normal (Octets.ofString "tools")] := by
      decide +kernel
    rintro ⟨name, hcomponents⟩
    rw [hcc, htools] at hcomponents
    have hfirst := (List.cons.inj (List.cons.inj hcomponents).2).1
    exact absurd hfirst (by decide)
  intro s
  rw [show Flags.table ["/bin/cc", "../bin/cc"]
    = [Octets.ofString "/bin/cc", Octets.ofString "../bin/cc"] from rfl, List.forall_mem_cons,
    List.forall_mem_singleton]
  constructor
  · exact ⟨by decide +kernel, by decide +kernel, .ofString "/bin/cc", .ofString "/bin/cc",
      .ofString "/tools", by decide +kernel, by decide +kernel, by decide +kernel, rfl, rfl,
      hapart⟩
  · exact ⟨by decide +kernel, by decide +kernel, .ofString "/tools/../bin/cc",
      .ofString "/bin/cc", .ofString "/tools", by decide +kernel, by decide +kernel,
      by decide +kernel, rfl, rfl, hapart⟩

end Language

end TwinBuild
