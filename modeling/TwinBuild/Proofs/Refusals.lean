import TwinBuild.Program
import TwinBuild.Proofs.CommandTrace
import TwinBuild.Proofs.HostOperations
import TwinBuild.Rehearsal

/-!
# Requests that come to nothing

A request is refused before anything is run: because an argument is not text, the compiler's name is
not known, the compiler is not found, or a directory for the objects of a later link cannot be made.
The first of these that applies is the error. It leaves the host as it was, but for the number from
which temporary names are drawn. A request that is not refused has run the native compile, once.

Main statement: `Request.refused_iff`.
-/

namespace TwinBuild

open Session Replay

/-- A search reads the host, answers what its probes decide, and logs one record of all of them. -/
theorem Search.run_find_eq (tool : String) (strategies : List Strategy) (s : Session) :
    (find tool strategies).run s
      = (match (search s.host strategies).2 with
          | some path => .ok path
          | none => .error (logText (search s.host strategies).1),
        { s with log := s.log ++ [⟨.debug, .search,
            "Searching for '" ++ tool ++ "':\n" ++ logText (search s.host strategies).1⟩] }) := by
  unfold find
  rw [run_bind, run_get]
  generalize search s.host strategies = result
  obtain ⟨probes, found⟩ := result
  cases found <;> rw [run_bind, run_say] <;> rfl

/-- A search changes nothing but the log. -/
theorem Search.run_find (tool : String) (strategies : List Strategy) (s : Session) :
    ∃ log, (find tool strategies).run s
      = (match (search s.host strategies).2 with
          | some path => .ok path
          | none => .error (logText (search s.host strategies).1),
        { s with log }) := ⟨_, run_find_eq tool strategies s⟩

/-- The search for the compiler of a language: the probes, and what they decide. -/
def Settings.search (settings : Settings) (h : Host) (language : Language) :
    List Probe × Option Path :=
  Search.search h
    (language.strategies settings.toolchain (Compilation.executableOf settings language))

namespace Compilation

variable (c : Compilation) {name : String} {language : Language} {s : Session}

/-! ## Finding the compiler -/

theorem run_resolve_of_unknown (h : Language.ofCompilerName? name = none) :
    (c.resolve name).run s = (.error (.unknownCompiler name), s) := by
  unfold resolve
  rw [h]
  rfl

/-- A search for the compiler decides by the host and leaves a record in the log, nothing else. -/
theorem run_resolve (h : Language.ofCompilerName? name = some language) :
    ∃ log, (c.resolve name).run s
      = (match (c.settings.search s.host language).2 with
          | some compiler => .ok compiler
          | none => .error (.compilerNotFound language c.settings.toolchain
              (Search.logText (c.settings.search s.host language).1)),
        { s with log }) := by
  obtain ⟨log, hfind⟩ := Search.run_find language.usualExecutable
    (language.strategies c.settings.toolchain (executableOf c.settings language)) s
  refine ⟨log, ?_⟩
  unfold resolve Language.findCompiler
  rw [h]
  simp only
  rw [run_bind, hfind, Settings.search]
  cases (Search.search s.host (language.strategies c.settings.toolchain
    (executableOf c.settings language))).2 <;> rfl

/-! ## What comes of the search -/

variable (arguments : List Octets)

theorem run_of_unknown (h : Language.ofCompilerName? name = none) :
    (c.run name arguments).run s = (.error (.unknownCompiler name), s) := by
  unfold run
  rw [run_bind, run_resolve_of_unknown c h]
  rfl

theorem run_of_notFound (h : Language.ofCompilerName? name = some language)
    (hsearch : (c.settings.search s.host language).2 = none) :
    ∃ log, (c.run name arguments).run s
      = (.error (.compilerNotFound language c.settings.toolchain
          (Search.logText (c.settings.search s.host language).1)), { s with log }) := by
  obtain ⟨log, hresolve⟩ := c.run_resolve (s := s) h
  refine ⟨log, ?_⟩
  unfold run
  rw [run_bind, hresolve, hsearch]
  rfl

theorem run_of_found (h : Language.ofCompilerName? name = some language) {compiler : Path}
    (hsearch : (c.settings.search s.host language).2 = some compiler) :
    ∃ log, (c.run name arguments).run s
      = (c.compile compiler (.ofArguments arguments)).run { s with log } := by
  obtain ⟨log, hresolve⟩ := c.run_resolve (s := s) h
  refine ⟨log, ?_⟩
  unfold run
  rw [run_bind, hresolve, hsearch]

/-! ## The scratch directory -/

/-- An invocation that is to link makes a scratch directory, or fails as the host does. -/
theorem run_makeScratch_of_links {i : Invocation} (hlinks : i.compilesOnly = false) :
    (makeScratch i).run s
      = ((((Host.createTemporaryDirectory Attachment.temporaryLead
            s.host.temporaryDirectory).run.run s.host).1.map some).mapError .noScratch,
        { s with host := ((Host.createTemporaryDirectory Attachment.temporaryLead
            s.host.temporaryDirectory).run.run s.host).2 }) := by
  unfold makeScratch
  rw [hlinks, if_neg Bool.false_ne_true]
  rfl

/-- The scratch directory cannot be made exactly if one is wanted and the host fails to make it. -/
theorem makeScratch_eq_error_iff (i : Invocation) {e : CompilationError} :
    ((makeScratch i).run s).1 = .error e
      ↔ i.compilesOnly = false ∧ ∃ fault, e = .noScratch fault
        ∧ ((Host.createTemporaryDirectory Attachment.temporaryLead
            s.host.temporaryDirectory).run.run s.host).1 = .error fault := by
  cases hlinks : i.compilesOnly with
  | true =>
      unfold makeScratch
      rw [hlinks, if_pos rfl, run_pure]
      simp
  | false =>
      rw [run_makeScratch_of_links hlinks]
      cases ((Host.createTemporaryDirectory Attachment.temporaryLead
        s.host.temporaryDirectory).run.run s.host).1 with
      | error fault => simp [Except.map, Except.mapError, eq_comm]
      | ok dir => simp [Except.map, Except.mapError]

/-- A scratch directory that cannot be made costs a temporary name and leaves nothing behind. -/
theorem host_makeScratch_of_error (i : Invocation) {e : CompilationError}
    (h : ((makeScratch i).run s).1 = .error e) :
    ∃ serial, ((makeScratch i).run s).2.host = { s.host with serial } := by
  obtain ⟨hlinks, fault, -, hfault⟩ := (makeScratch_eq_error_iff i).1 h
  rw [run_makeScratch_of_links hlinks]
  generalize hmake : (Host.createTemporaryDirectory Attachment.temporaryLead
    s.host.temporaryDirectory).run.run s.host = made at hfault
  obtain ⟨result, after⟩ := made
  rcases Host.run_makeDrawn Host.makeDirectory Host.attempt_error hmake with ⟨rfl, -⟩
    | ⟨base, n, -, ⟨_, -, rfl⟩ | ⟨rfl, -⟩⟩
  · exact ⟨_, rfl⟩
  · exact ⟨_, rfl⟩
  · cases hfault

/-! ## What a compilation issues -/

/-- **The entries of a compilation that ran its builds.** There is one of the native compile. A
bypassed invocation has no other. Else there are those of the replay, and after the builds perhaps
those that finish the compilation. -/
structure Issues (compiler : Path) (i : Invocation) (b : Builds) (later : List Issue) : Prop where
  native : b.native.command = { program := compiler, arguments := i.nativeArguments }
  bypassed : i.bypass? c.settings.configuring ≠ none → b.replay = [] ∧ later = []
  replayed : i.bypass? c.settings.configuring = none → ∃ naming s,
    b.replay.map Issue.command = c.replayCommands compiler i naming
    ∧ later.map Issue.command
      = if b.succeeded then c.finishCommands compiler i naming s else []

/-- **A compilation fails to run its builds only for want of a scratch directory.** -/
theorem issues_or_error (compiler : Path) (i : Invocation) (s : Session) :
    (∃ b later, c.Issues compiler i b later
      ∧ Adds (c.compile compiler i) s (b.entries ++ later)
      ∧ ((c.compile compiler i).run s).1 = .ok (if b.succeeded then .success else .failure))
    ∨ (i.bypass? c.settings.configuring = none ∧ ∃ e, ((makeScratch i).run s).1 = .error e) := by
  cases hbypass : i.bypass? c.settings.configuring with
  | some why =>
      obtain ⟨entry, hadds, hcommand, houtcome⟩ := c.exists_adds_passThrough compiler i why s
      have hrun := compile_of_bypass c compiler i hbypass
      refine .inl ⟨⟨[], entry, []⟩, [], ⟨hcommand, fun _ => ⟨rfl, rfl⟩, ?_⟩, ?_, ?_⟩
      · rw [hbypass]
        intro h
        cases h
      · rw [hrun]
        exact hadds
      · rw [hrun]
        show Except.ok ((c.passThrough compiler i why).run s).1 = _
        rw [houtcome, outcomeOf_alone]
  | none =>
      cases hscratch : ((makeScratch i).run s).1 with
      | error e => exact .inr ⟨rfl, e, rfl⟩
      | ok scratch =>
          obtain ⟨b, later, -, hadds, hbuilds, hlater, houtcome⟩ := c.exists_builds_buildTwice
            compiler i (makesObjects_of_makeScratch i hscratch) ((makeScratch i).run s).2
          refine .inl ⟨b, later, ⟨hbuilds.native, ?_, ?_⟩,
            adds_compile_of_scratch hbypass hscratch hadds, ?_⟩
          · intro h
            exact absurd hbypass h
          · intro _
            exact ⟨_, _, hbuilds.replay, hlater⟩
          · rw [run_compile_of_scratch c compiler i hbypass hscratch, houtcome]

end Compilation

namespace Request

variable (runner : Runner) (r : Request) (turn : Nat) {s : Session}

/-- Whether all arguments of the compiler are text. -/
def IsText : Prop := ∀ a ∈ r.arguments, Utf8.isValid a = true

/-- **Why a request is refused**, by the host on which it is run. Each reason is one only where
those before it do not apply. -/
inductive Refused (h : Host) : RequestError → Prop
  /-- An argument is not text, and all before it are. -/
  | notText {before after : List Octets} {argument : Octets}
      (harguments : r.arguments = before ++ argument :: after)
      (hbefore : ∀ a ∈ before, Utf8.isValid a = true) (hargument : Utf8.isValid argument = false) :
      Refused h (.notText argument)
  /-- The compiler's name is not known. -/
  | unknownCompiler (htext : r.IsText) (hname : Language.ofCompilerName? r.compiler = none) :
      Refused h (.compilation (.unknownCompiler r.compiler))
  /-- The search for the compiler decides for none. -/
  | compilerNotFound {language : Language} (htext : r.IsText)
      (hname : Language.ofCompilerName? r.compiler = some language)
      (hsearch : ((r.settings h).search h language).2 = none) :
      Refused h (.compilation (.compilerNotFound language (r.settings h).toolchain
        (Search.logText ((r.settings h).search h language).1)))
  /-- The objects of a later link want a directory, and the host fails to make one. -/
  | noScratch {language : Language} {compiler : Path} {fault : Fault} (htext : r.IsText)
      (hname : Language.ofCompilerName? r.compiler = some language)
      (hsearch : ((r.settings h).search h language).2 = some compiler)
      (hbypass : (Invocation.ofArguments r.arguments).bypass? (r.settings h).configuring = none)
      (hlinks : (Invocation.ofArguments r.arguments).compilesOnly = false)
      (hfault : ((Host.createTemporaryDirectory Attachment.temporaryLead
        h.temporaryDirectory).run.run h).1 = .error fault) :
      Refused h (.compilation (.noScratch fault))

theorem run_of_notText {argument : Octets}
    (h : (r.arguments.find? fun a => !Utf8.isValid a) = some argument) :
    (r.run runner turn).run s = (.error (.notText argument), s) := by
  unfold run
  rw [h]
  rfl

theorem run_of_isText (h : r.IsText) :
    (r.run runner turn).run s
      = ((((r.compilation runner turn s.host).run r.compiler r.arguments).run s).1.mapError
          .compilation,
        (((r.compilation runner turn s.host).run r.compiler r.arguments).run s).2) := by
  have hfind : (r.arguments.find? fun a => !Utf8.isValid a) = none := by
    rw [List.find?_eq_none]
    intro a ha
    simp [h a ha]
  unfold run
  rw [hfind]
  rfl

/-- **A refused request runs nothing**: it ends with its error, issues no command, and leaves the
host as it was but for the supply of temporary names. -/
theorem run_of_refused {e : RequestError} (h : r.Refused s.host e) :
    ∃ after, (r.run runner turn).run s = (.error e, after) ∧ after.issued = s.issued
      ∧ ∃ serial, after.host = { s.host with serial } := by
  cases h with
  | @notText before after argument harguments hbefore hargument =>
      refine ⟨s, run_of_notText runner r turn ?_, rfl, s.host.serial, rfl⟩
      rw [List.find?_eq_some_iff_append]
      refine ⟨by rw [hargument]; rfl, before, after, harguments, fun a ha => ?_⟩
      rw [hbefore a ha]
      rfl
  | unknownCompiler htext hname =>
      refine ⟨s, ?_, rfl, s.host.serial, rfl⟩
      rw [run_of_isText runner r turn htext, Compilation.run_of_unknown _ _ hname]
      rfl
  | compilerNotFound htext hname hsearch =>
      obtain ⟨log, hrun⟩ := (r.compilation runner turn s.host).run_of_notFound r.arguments hname
        hsearch
      refine ⟨{ s with log }, ?_, rfl, s.host.serial, rfl⟩
      rw [run_of_isText runner r turn htext, hrun]
      rfl
  | @noScratch language compiler fault htext hname hsearch hbypass hlinks hfault =>
      obtain ⟨log, hrun⟩ := (r.compilation runner turn s.host).run_of_found r.arguments hname
        hsearch
      have hscratch : ((Compilation.makeScratch (.ofArguments r.arguments)).run { s with log }).1
          = .error (.noScratch fault) :=
        (Compilation.makeScratch_eq_error_iff _).2 ⟨hlinks, fault, rfl, hfault⟩
      have hcompile := Compilation.run_compile_of_error (r.compilation runner turn s.host) compiler
        _ hbypass hscratch
      refine ⟨_, ?_, Compilation.issued_makeScratch _ { s with log },
        Compilation.host_makeScratch_of_error _ hscratch⟩
      rw [run_of_isText runner r turn htext, hrun, hcompile]
      rfl

/-- **A request that was run.** Its compiler is the one that was searched for, and it ends as its
builds did. -/
structure Ran (s : Session) (outcome : Outcome) (b : Builds) (later : List Issue) : Prop where
  answer : ((r.run runner turn).run s).1 = .ok outcome
  entries : Adds (r.run runner turn) s (b.entries ++ later)
  exitCode : outcome.exitCode = if b.succeeded then 0 else 1
  issues : ∃ language compiler, Language.ofCompilerName? r.compiler = some language
    ∧ ((r.settings s.host).search s.host language).2 = some compiler
    ∧ (r.compilation runner turn s.host).Issues compiler (.ofArguments r.arguments) b later

/-- With its compiler at hand, a request lacks at most the scratch directory. -/
theorem ran_or_fault_of_found {language : Language} {compiler : Path} (htext : r.IsText)
    (hname : Language.ofCompilerName? r.compiler = some language)
    (hsearch : ((r.settings s.host).search s.host language).2 = some compiler) :
    (∃ outcome b later, r.Ran runner turn s outcome b later)
    ∨ ((Invocation.ofArguments r.arguments).bypass? (r.settings s.host).configuring = none
      ∧ (Invocation.ofArguments r.arguments).compilesOnly = false
      ∧ ∃ fault, ((Host.createTemporaryDirectory Attachment.temporaryLead
        s.host.temporaryDirectory).run.run s.host).1 = .error fault) := by
  obtain ⟨log, hrun⟩ := (r.compilation runner turn s.host).run_of_found r.arguments hname hsearch
  have hrequest := run_of_isText runner r turn (s := s) htext
  rw [hrun] at hrequest
  rcases (r.compilation runner turn s.host).issues_or_error compiler (.ofArguments r.arguments)
    { s with log } with ⟨b, later, hissues, hadds, houtcome⟩ | ⟨hbypass, e, hscratch⟩
  · refine .inl ⟨if b.succeeded then .success else .failure, b, later, ?_, ?_, ?_, language,
      compiler, hname, hsearch, hissues⟩
    · rw [hrequest, houtcome]
      rfl
    · unfold Adds at hadds ⊢
      rw [hrequest, hadds]
    · cases b.succeeded <;> rfl
  · obtain ⟨hlinks, fault, -, hfault⟩ := (Compilation.makeScratch_eq_error_iff _).1 hscratch
    exact .inr ⟨hbypass, hlinks, fault, hfault⟩

/-- **Every request is refused or run.** -/
theorem refused_or_ran (s : Session) :
    (∃ e, r.Refused s.host e) ∨ ∃ outcome b later, r.Ran runner turn s outcome b later := by
  -- the reasons in the order in which the request comes upon them
  cases hfind : r.arguments.find? fun a => !Utf8.isValid a with
  | some argument =>
      obtain ⟨hargument, before, after, harguments, hbefore⟩ :=
        List.find?_eq_some_iff_append.1 hfind
      refine .inl ⟨_, .notText harguments (fun a ha => ?_) ?_⟩
      · simpa using hbefore a ha
      · simpa using hargument
  | none =>
      have htext : r.IsText := fun a ha => by simpa using List.find?_eq_none.1 hfind a ha
      cases hname : Language.ofCompilerName? r.compiler with
      | none => exact .inl ⟨_, .unknownCompiler htext hname⟩
      | some language =>
          cases hsearch : ((r.settings s.host).search s.host language).2 with
          | none => exact .inl ⟨_, .compilerNotFound htext hname hsearch⟩
          | some compiler =>
              rcases ran_or_fault_of_found runner r turn htext hname hsearch with
                hran | ⟨hbypass, hlinks, fault, hfault⟩
              · exact .inr hran
              · exact .inl ⟨_, .noScratch htext hname hsearch hbypass hlinks hfault⟩

/-- **An error means that nothing was run.** A request ends in an error exactly if it is refused,
and then for the first reason that applies: an argument is not text, the compiler's name is not
known, the compiler is not found, or a scratch directory is needed and cannot be made. The exit
status is 1, no command was issued, and the file tree is as it was. Any other request has run the
native compile, once, and ends with the exit status 0 or 1. -/
theorem refused_iff (s : Session) :
    (∀ e, ((r.run runner turn).run s).1 = .error e ↔ r.Refused s.host e)
    ∧ (∀ e, r.Refused s.host e →
      e.exitCode = 1
      ∧ ((r.run runner turn).run s).2.issued = s.issued
      ∧ ∃ serial, ((r.run runner turn).run s).2.host = { s.host with serial })
    ∧ ((∀ e, ¬ r.Refused s.host e) →
      ∃ outcome b later, r.Ran runner turn s outcome b later
        ∧ (outcome.exitCode = 0 ∨ outcome.exitCode = 1)) := by
  refine ⟨fun e => ⟨fun herror => ?_, fun h => ?_⟩, fun e h => ?_, fun h => ?_⟩
  · rcases refused_or_ran runner r turn s with ⟨e', h⟩ | ⟨outcome, b, later, hran⟩
    · obtain ⟨after, hrun, -⟩ := run_of_refused runner r turn h
      rw [hrun] at herror
      cases herror
      exact h
    · rw [hran.answer] at herror
      cases herror
  · obtain ⟨after, hrun, -⟩ := run_of_refused runner r turn h
    rw [hrun]
  · obtain ⟨after, hrun, hissued, hhost⟩ := run_of_refused runner r turn h
    rw [hrun]
    exact ⟨rfl, hissued, hhost⟩
  · rcases refused_or_ran runner r turn s with ⟨e, he⟩ | ⟨outcome, b, later, hran⟩
    · exact absurd he (h e)
    · refine ⟨outcome, b, later, hran, ?_⟩
      cases outcome with
      | success => exact .inl rfl
      | failure => exact .inr rfl

/-- A host with one compiler, on which no directory can be made. -/
def cramped : Session where
  host :=
    { files := ⟨[([Octets.ofString "tmp"], .directory), ([Octets.ofString "bin"], .directory),
        ([Octets.ofString "bin", Octets.ofString "clang"],
          .file { content := [], executable := true })]⟩
      cwd := { place := [] }
      refuses := fun
        | .makeDirectory _ => some .noEntry
        | _ => none }

/-- A request for that compiler. -/
def crampedRequest (arguments : List String) : Request where
  compiler := "cc"
  arguments := Flags.table arguments
  overrides := { toolchain := some (.ofString "/bin") }

/-- Where no scratch directory can be made, a command that links is refused, and one that stops
before the link is run. -/
theorem refused_only_to_link :
    let runner := ({} : Rehearsal).runner
    (crampedRequest ["a.c"]).Refused cramped.host (.compilation (.noScratch
      (.atPath (.refused .noEntry) (.ofString "/tmp/dualcc000000"))))
    ∧ (((crampedRequest ["a.c"]).run runner).run cramped).2.issued = []
    ∧ ∃ outcome b later,
      (crampedRequest ["-c", "a.c"]).Ran runner 0 cramped outcome b later := by
  intro runner
  obtain ⟨herror, hnothing, -⟩ := refused_iff runner (crampedRequest ["a.c"]) 0 cramped
  have hrefused := (herror (.compilation (.noScratch
    (.atPath (.refused .noEntry) (.ofString "/tmp/dualcc000000"))))).1 (by decide +kernel)
  refine ⟨hrefused, (hnothing _ hrefused).2.1, ?_⟩
  obtain ⟨herror, -, hran⟩ := refused_iff runner (crampedRequest ["-c", "a.c"]) 0 cramped
  obtain ⟨outcome, b, later, h, -⟩ := hran fun e he => by
    have hok : (((crampedRequest ["-c", "a.c"]).run runner).run cramped).1.isOk = true := by
      decide +kernel
    rw [(herror e).2 he] at hok
    cases hok
  exact ⟨outcome, b, later, h⟩

end Request

end TwinBuild
