import TwinBuild.Proofs.Refusals

/-!
# What decides where the compiler is

The compiler of a language is looked for by the value of a variable and then where the settings say it
is. A value that is text decides alone, for good or bad: what the settings say is not looked at. Of a
value that is no text nothing is looked up, and the settings decide as if there were no value.

Main statement: `Compilation.explicit_path_settles_iff`.
-/

namespace TwinBuild

namespace Settings

/-- The name of the executable for a language. -/
def executable (settings : Settings) (language : Language) : Path :=
  ⟨Octets.ofString ((Compilation.executableOf settings language).getD language.usualExecutable)⟩

/-- Where the settings say that the compiler of a language is: its name, in the toolchain directory if
there is one. -/
def location (settings : Settings) (language : Language) : Path :=
  match settings.toolchain with
  | some dir => dir.join (settings.executable language)
  | none => settings.executable language

variable (settings : Settings) {h : Host} {language : Language}

theorem strategies_eq (language : Language) :
    language.strategies settings.toolchain (Compilation.executableOf settings language)
      = [.environment (Octets.ofString language.pathVariable),
        .name (settings.location language).text] := by
  unfold Language.strategies location
  cases settings.toolchain <;> rfl

/-- **A value that is text decides the search** at its first probe. -/
theorem search_of_text {value : Octets}
    (hvalue : h.valueOf (Octets.ofString language.pathVariable) = some value)
    (htext : Utf8.isValid value = true) :
    settings.search h language
      = ([.environment (Octets.ofString language.pathVariable) value (h.findExecutable ⟨value⟩)],
        (h.findExecutable ⟨value⟩).toOption) := by
  have hprobe : (Strategy.environment (Octets.ofString language.pathVariable)).probe h
      = .environment (Octets.ofString language.pathVariable) value (h.findExecutable ⟨value⟩) := by
    simp only [Strategy.probe, hvalue, htext, if_true]
  rw [Settings.search, strategies_eq, Search.search, hprobe]
  rfl

/-- **A variable that cannot be read leaves the search to the settings.** -/
theorem search_of_unreadable {fault : VariableFault}
    (hprobe : (Strategy.environment (Octets.ofString language.pathVariable)).probe h
      = .unreadable (Octets.ofString language.pathVariable) fault) :
    settings.search h language
      = ([.unreadable (Octets.ofString language.pathVariable) fault,
          .name (settings.location language).text (h.findExecutable (settings.location language))],
        (h.findExecutable (settings.location language)).toOption) := by
  rw [Settings.search, strategies_eq, Search.search, hprobe]
  simp only [Probe.decision, Search.search, Strategy.probe]
  cases h.findExecutable (settings.location language) <;> rfl

/-- What is found: by the value of the variable if it is text, else where the settings say. -/
theorem search_eq {value : Octets}
    (hvalue : h.valueOf (Octets.ofString language.pathVariable) = some value) :
    (settings.search h language).2
      = (h.findExecutable (if Utf8.isValid value then ⟨value⟩
          else settings.location language)).toOption := by
  by_cases htext : Utf8.isValid value = true
  · rw [settings.search_of_text hvalue htext, if_pos htext]
  · have hprobe : (Strategy.environment (Octets.ofString language.pathVariable)).probe h
        = .unreadable (Octets.ofString language.pathVariable) (.undecodable value) := by
      simp only [Strategy.probe, hvalue, if_neg htext]
    rw [settings.search_of_unreadable hprobe, if_neg htext]

end Settings

namespace Compilation

variable {name : String} {language : Language} {s : Session} {value : Octets}

/-- Whether a value settles which compiler a name means: it is the executable that the value names, or
the compiler is not found if it names none. -/
def IsSettledBy (c : Compilation) (name : String) (language : Language) (s : Session)
    (value : Octets) : Prop :=
  match s.host.findExecutable ⟨value⟩ with
  | .ok compiler => ((c.resolve name).run s).1 = .ok compiler
  | .error _ => ∃ log, ((c.resolve name).run s).1
      = .error (.compilerNotFound language c.settings.toolchain log)

/-- What a compiler name means is what the search for its language finds. -/
theorem toOption_resolve (c : Compilation) (hname : Language.ofCompilerName? name = some language) :
    ((c.resolve name).run s).1.toOption = (c.settings.search s.host language).2 := by
  obtain ⟨log, hrun⟩ := c.run_resolve (s := s) hname
  rw [hrun]
  cases (c.settings.search s.host language).2 <;> rfl

/-- A value settles what a name means exactly if what is found is what the value names. -/
theorem isSettledBy_iff (c : Compilation) (hname : Language.ofCompilerName? name = some language) :
    c.IsSettledBy name language s value
      ↔ (c.settings.search s.host language).2 = (s.host.findExecutable ⟨value⟩).toOption := by
  obtain ⟨log, hrun⟩ := c.run_resolve (s := s) hname
  unfold IsSettledBy
  rw [hrun]
  cases hfound : (c.settings.search s.host language).2 <;>
    cases s.host.findExecutable ⟨value⟩ <;> simp [Except.toOption]

/-- **When an explicit path settles the search.** What a compiler name means is settled by the value of
the variable exactly if the value is text, or what it names happens to be what the settings lead to. Two
compilations agree on it exactly if the value is text, or their settings lead to the same. For a value
that is text nothing else is looked up. -/
theorem explicit_path_settles_iff (hname : Language.ofCompilerName? name = some language)
    (hvalue : s.host.valueOf (Octets.ofString language.pathVariable) = some value) :
    (∀ c : Compilation, c.IsSettledBy name language s value
      ↔ Utf8.isValid value = true
        ∨ (s.host.findExecutable (c.settings.location language)).toOption
          = (s.host.findExecutable ⟨value⟩).toOption)
    ∧ (∀ c c' : Compilation,
      ((c.resolve name).run s).1.toOption = ((c'.resolve name).run s).1.toOption
      ↔ Utf8.isValid value = true
        ∨ (s.host.findExecutable (c.settings.location language)).toOption
          = (s.host.findExecutable (c'.settings.location language)).toOption)
    ∧ (Utf8.isValid value = true → ∀ c : Compilation, (c.settings.search s.host language).1
      = [.environment (Octets.ofString language.pathVariable) value
          (s.host.findExecutable ⟨value⟩)]) := by
  refine ⟨fun c => ?_, fun c c' => ?_, fun htext c => ?_⟩
  · rw [c.isSettledBy_iff hname, c.settings.search_eq hvalue]
    by_cases htext : Utf8.isValid value = true
    · simp [htext]
    · simp [htext]
  · rw [c.toOption_resolve hname, c'.toOption_resolve hname, c.settings.search_eq hvalue,
      c'.settings.search_eq hvalue]
    by_cases htext : Utf8.isValid value = true
    · simp [htext]
    · simp [htext]
  · rw [c.settings.search_of_text hvalue htext]

/-- A session with two compilers, of which one is on the search list, and a value that is to name one. -/
def twoCompilers (value : Octets) : Session where
  host :=
    { files := ⟨[([Octets.ofString "bin"], .directory),
        ([Octets.ofString "bin", Octets.ofString "cc"],
          .file { content := [], executable := true }),
        ([Octets.ofString "tools"], .directory),
        ([Octets.ofString "tools", Octets.ofString "clang"],
          .file { content := [], executable := true })]⟩
      cwd := { place := [] }
      environment := [(Octets.ofString "DUALCC_CC_PATH", value),
        (Octets.ofString "PATH", Octets.ofString "/tools")] }

/-- A value that names no executable settles that there is none, where the search list has one. -/
theorem explicit_path_settles_missing :
    let value := Octets.ofString "/bin/clang"
    let s := twoCompilers value
    let c : Compilation := { runner := ({} : Rehearsal).runner }
    let c' : Compilation :=
      { settings := { toolchain := some (.ofString "/bin"), cName := some "cc" }
        runner := ({} : Rehearsal).runner }
    c.IsSettledBy "gcc" .c s value ∧ ((c.resolve "gcc").run s).1.toOption = none
    ∧ ((c.resolve "gcc").run s).1.toOption = ((c'.resolve "gcc").run s).1.toOption
    ∧ (s.host.findExecutable (c.settings.location .c)).toOption = some (.ofString "/tools/clang")
    ∧ (s.host.findExecutable (c'.settings.location .c)).toOption = some (.ofString "/bin/cc") := by
  intro value s c c'
  have hname : Language.ofCompilerName? "gcc" = some .c := by decide +kernel
  have hvalue : s.host.valueOf (Octets.ofString Language.c.pathVariable) = some value := by
    decide +kernel
  obtain ⟨hsettles, hagree, -⟩ := explicit_path_settles_iff hname hvalue
  exact ⟨(hsettles c).2 (Or.inl (by decide +kernel)), by decide +kernel,
    (hagree c c').2 (Or.inl (by decide +kernel)), by decide +kernel, by decide +kernel⟩

/-- **A value that is no text settles nothing.** It names no executable, and yet each of two compilations
finds the one that its settings lead to. -/
theorem undecodable_path_falls_through :
    let value : Octets := [Octets.slash, 255]
    let s := twoCompilers value
    let c : Compilation := { runner := ({} : Rehearsal).runner }
    let c' : Compilation :=
      { settings := { toolchain := some (.ofString "/bin"), cName := some "cc" }
        runner := ({} : Rehearsal).runner }
    s.host.valueOf (Octets.ofString Language.c.pathVariable) = some value
    ∧ (s.host.findExecutable ⟨value⟩).toOption = none
    ∧ ((c.resolve "clang").run s).1 = .ok (.ofString "/tools/clang")
    ∧ ((c'.resolve "clang").run s).1 = .ok (.ofString "/bin/cc")
    ∧ ¬ c.IsSettledBy "clang" .c s value := by
  intro value s c c'
  have hnone : s.host.findExecutable ⟨value⟩ = .error .notFound := by rfl
  have hfound : ((c.resolve "clang").run s).1 = .ok (.ofString "/tools/clang") := by
    decide +kernel
  refine ⟨by decide +kernel, by rw [hnone]; rfl, hfound, by decide +kernel, fun h => ?_⟩
  unfold IsSettledBy at h
  rw [hnone] at h
  obtain ⟨log, hlog⟩ := h
  rw [hfound] at hlog
  cases hlog

end Compilation

end TwinBuild
