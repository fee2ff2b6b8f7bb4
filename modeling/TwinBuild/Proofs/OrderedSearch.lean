import TwinBuild.Proofs.Refusals

/-!
# What an ordered search finds and logs

A strategy is decisive if it settles a search: a name that is found, or a variable whose value is text,
for good or bad. A search tries its strategies in order up to the first decisive one, logs one line for
each that it tries, and finds what that one leads to. What comes after it is never looked at.

Main statement: `Search.first_decisive_settles`.
-/

namespace TwinBuild

open Session

namespace Strategy

variable (h : Host)

/-- Whether a strategy settles a search on a host: the name is found, or the variable is set to a text,
whether or not that names an executable. -/
def IsDecisive : Strategy → Prop
  | environment key => (h.valueOf key).any Utf8.isValid = true
  | name executable => (h.findExecutable ⟨executable⟩).isOk = true

instance : DecidablePred (IsDecisive h)
  | environment _ => inferInstanceAs (Decidable (_ = true))
  | name _ => inferInstanceAs (Decidable (_ = true))

/-- The executable that a strategy leads to, if it does. -/
def executable? : Strategy → Option Path
  | environment key => (h.valueOf key).bind fun value => (h.findExecutable ⟨value⟩).toOption
  | name executable => (h.findExecutable ⟨executable⟩).toOption

/-- The line of the search log on a strategy. -/
def logLine (strategy : Strategy) : String := "- " ++ (strategy.probe h).text ++ "\n"

/-- **A probe decides exactly if its strategy is decisive**, and then for what that leads to. -/
theorem decision_probe (strategy : Strategy) :
    (strategy.probe h).decision
      = if strategy.IsDecisive h then some (strategy.executable? h) else none := by
  cases strategy with
  | environment key =>
      cases hvalue : h.valueOf key with
      | none => simp [probe, IsDecisive, hvalue, Probe.decision]
      | some value =>
          by_cases htext : Utf8.isValid value = true
          · simp [probe, IsDecisive, executable?, hvalue, htext, Probe.decision]
          · simp [probe, IsDecisive, hvalue, htext, Probe.decision]
  | name executable =>
      cases hfound : h.findExecutable ⟨executable⟩ with
      | error fault => simp [probe, IsDecisive, hfound, Probe.decision, Except.isOk, Except.toBool]
      | ok path =>
          simp [probe, IsDecisive, executable?, hfound, Probe.decision, Except.isOk, Except.toBool,
            Except.toOption]

/-- The strategies that a search tries: those before the first decisive one, and that one. -/
def tried (strategies : List Strategy) : List Strategy :=
  strategies.takeWhile (fun strategy => ¬ strategy.IsDecisive h)
    ++ (strategies.find? fun strategy => strategy.IsDecisive h).toList

variable {h}

theorem tried_cons_of_decisive {first : Strategy} (hfirst : first.IsDecisive h)
    (rest : List Strategy) : tried h (first :: rest) = [first] := by
  simp [tried, hfirst]

theorem tried_cons_of_not {first : Strategy} (hfirst : ¬ first.IsDecisive h)
    (rest : List Strategy) : tried h (first :: rest) = first :: tried h rest := by
  simp [tried, hfirst]

/-- Up to a decisive strategy it does not matter what comes after it. -/
theorem tried_append_cons (before : List Strategy) {d : Strategy} (hd : d.IsDecisive h)
    (after : List Strategy) : tried h (before ++ d :: after) = tried h (before ++ [d]) := by
  induction before with
  | nil => rw [List.nil_append, List.nil_append, tried_cons_of_decisive hd, tried_cons_of_decisive hd]
  | cons first before ih =>
      rw [List.cons_append, List.cons_append]
      by_cases hfirst : first.IsDecisive h
      · rw [tried_cons_of_decisive hfirst, tried_cons_of_decisive hfirst]
      · rw [tried_cons_of_not hfirst, tried_cons_of_not hfirst, ih]

end Strategy

namespace Search

open Strategy

/-- **A search probes the strategies that it tries**, and decides for what the first decisive one leads
to. -/
theorem search_eq_tried (h : Host) (strategies : List Strategy) :
    search h strategies
      = ((tried h strategies).map (Strategy.probe h),
        (strategies.find? fun strategy => strategy.IsDecisive h).bind (executable? h)) := by
  induction strategies with
  | nil => rfl
  | cons first rest ih =>
      rw [search, decision_probe]
      by_cases hfirst : first.IsDecisive h
      · rw [if_pos hfirst, tried_cons_of_decisive hfirst, List.find?_cons_of_pos (by simpa using hfirst)]
        rfl
      · rw [if_neg hfirst, tried_cons_of_not hfirst, List.find?_cons_of_neg (by simpa using hfirst), ih]
        rfl

/-- What comes after a decisive strategy does not matter to a search. -/
theorem search_append_cons {h : Host} (before : List Strategy) {d : Strategy}
    (hd : d.IsDecisive h) (after : List Strategy) :
    search h (before ++ d :: after) = search h (before ++ [d]) := by
  have hfirst : ∀ rest : List Strategy,
      ((before ++ d :: rest).find? fun strategy => strategy.IsDecisive h)
        = (before.find? fun strategy => strategy.IsDecisive h).or (some d) := by
    intro rest
    rw [List.find?_append, List.find?_cons_of_pos (by simpa using hd)]
  rw [search_eq_tried, search_eq_tried, tried_append_cons before hd, hfirst, hfirst]

/-- The log of a search has a line for each strategy that was tried, in order. -/
theorem logText_search (h : Host) (strategies : List Strategy) :
    logText (search h strategies).1 = String.join ((tried h strategies).map (logLine h)) := by
  rw [search_eq_tried, logText, List.map_map]
  rfl

/-- **The first decisive strategy settles a search.** What is found is what the first decisive strategy
leads to. If there is none, or it leads to nothing, the error is the search log. In either case the log
has one line for each strategy up to the first decisive one, in order, and that is all the search leaves
behind. The strategies after a decisive one change neither the result nor the log. -/
theorem first_decisive_settles (tool : String) (strategies : List Strategy) (s : Session) :
    (∀ path, ((find tool strategies).run s).1 = .ok path
      ↔ ∃ d, (strategies.find? fun strategy => strategy.IsDecisive s.host) = some d
        ∧ d.executable? s.host = some path)
    ∧ (∀ text, ((find tool strategies).run s).1 = .error text
      ↔ (∀ d, (strategies.find? fun strategy => strategy.IsDecisive s.host) = some d →
          d.executable? s.host = none)
        ∧ text = String.join ((tried s.host strategies).map (logLine s.host)))
    ∧ ((find tool strategies).run s).2
      = { s with log := s.log ++ [⟨.debug, .search, "Searching for '" ++ tool ++ "':\n"
          ++ String.join ((tried s.host strategies).map (logLine s.host))⟩] }
    ∧ ∀ before d after after', strategies = before ++ d :: after → d.IsDecisive s.host →
      (find tool (before ++ d :: after')).run s = (find tool strategies).run s := by
  have hrun := run_find_eq tool strategies s
  rw [logText_search, search_eq_tried] at hrun
  refine ⟨fun path => ?_, fun text => ?_, by rw [hrun], ?_⟩
  · rw [hrun]
    cases hfirst : strategies.find? fun strategy => strategy.IsDecisive s.host with
    | none => simp
    | some d => cases hpath : d.executable? s.host <;> simp [hpath]
  · rw [hrun]
    cases hfirst : strategies.find? fun strategy => strategy.IsDecisive s.host with
    | none => simp [eq_comm]
    | some d => cases hpath : d.executable? s.host <;> simp [hpath, eq_comm]
  · rintro before d after after' rfl hd
    rw [run_find_eq, run_find_eq, search_append_cons before hd after',
      search_append_cons before hd after]

/-- A session with one compiler, a variable that is no text, and one that names nothing. -/
def brokenVariable : Session where
  host :=
    { files := ⟨[([Octets.ofString "bin"], .directory),
        ([Octets.ofString "bin", Octets.ofString "cc"],
          .file { content := [], executable := true })]⟩
      cwd := { place := [] }
      environment := [(Octets.ofString "OLD_CC", [Octets.slash, 255]),
        (Octets.ofString "CC", Octets.ofString "/bin/gcc")] }

/-- A variable that is unset, one that is no text and a name that is not found leave the search to the
variable after them, which settles it although it names nothing: the compiler that comes last is not
looked for, and a search with anything else in its place says the same. -/
theorem first_decisive_settles_broken_variable :
    let s := brokenVariable
    let before : List Strategy := [.environment (Octets.ofString "NO_CC"),
      .environment (Octets.ofString "OLD_CC"), .name (Octets.ofString "/bin/clang")]
    let cc : Strategy := .environment (Octets.ofString "CC")
    let last : Strategy := .name (Octets.ofString "/bin/cc")
    let text := "- Environment variable 'NO_CC': environment variable not found\n"
      ++ "- Environment variable 'OLD_CC': environment variable was not valid unicode: \"/\\xFF\"\n"
      ++ "- Executable '/bin/clang' not usable: cannot find binary path\n"
      ++ "- Environment variable CC=/bin/gcc does not name an executable: cannot find binary path\n"
    cc.IsDecisive s.host ∧ last.executable? s.host = some (.ofString "/bin/cc")
    ∧ ((find "clang" (before ++ cc :: [last])).run s).1 = .error text
    ∧ ∀ after, (find "clang" (before ++ cc :: after)).run s
      = (find "clang" (before ++ cc :: [last])).run s := by
  intro s before cc last text
  obtain ⟨-, herror, -, hafter⟩ := first_decisive_settles "clang" (before ++ cc :: [last]) s
  have hcc : cc.IsDecisive s.host := by decide +kernel
  have hfirst : ((before ++ cc :: [last]).find? fun strategy => strategy.IsDecisive s.host)
      = some cc := by decide +kernel
  refine ⟨hcc, by decide +kernel, (herror text).2 ⟨fun d hd => ?_, by decide +kernel⟩,
    fun after => hafter before cc [last] after rfl hcc⟩
  rw [hfirst] at hd
  cases hd
  decide +kernel

end Search

end TwinBuild
