import TwinBuild.Language
import TwinBuild.Replay
import TwinBuild.Report

/-!
# Compilations

One wrapped compiler command from beginning to end. The command is run as it was given, and beside
it the replay for every source. If all went well, the bitcode is attached to the objects, and an
output that was linked is linked again from objects that carry references. Only the native compile
and the replay decide the outcome.
-/

namespace TwinBuild

/-- How a compilation ended. -/
inductive Outcome where
  | success
  | failure
deriving DecidableEq, Repr

/-- The exit status of an outcome. -/
def Outcome.exitCode : Outcome → Nat
  | success => 0
  | failure => 1

/-- Why nothing was compiled. -/
inductive CompilationError where
  | unknownCompiler (name : String)
  | compilerNotFound (language : Language) (directory : Option Path) (log : String)
  | noScratch (fault : Fault)
deriving DecidableEq, Repr

/-- The report that the user sees when nothing was compiled. -/
def CompilationError.report : CompilationError → Report
  | unknownCompiler name =>
    { title := "Unknown Compiler"
      message := some ("'" ++ name ++ "' is not a compiler dualcc knows how to wrap.\n\n"
        ++ "Use one of: cc, clang, gcc for C, or c++, cxx, clang++, g++ for C++.") }
  | compilerNotFound language directory log =>
    { title := "Compiler Not Found"
      path := directory
      message := some ("Could not locate the real " ++ language.compilerText
        ++ ". Searched:\n\n" ++ log) }
  | noScratch fault =>
    { title := "Scratch Directory"
      message := some ("Could not create a directory for intermediate object files: "
        ++ fault.text) }

/-- What a compilation works with. -/
structure Compilation where
  settings : Settings := {}
  runner : Runner
  /-- How many jobs of the replay begin before the native compile does. The two run side by side,
  so the host may put the native compile anywhere among them. -/
  turn : Nat := 0

namespace Compilation

/-- The output of a link that names none. -/
def usualOutput : Path := .ofString "a.out"

/-- The executable that the settings choose for a language, if they choose one. -/
def executableOf (s : Settings) : Language → Option String
  | .c => s.cName
  | .cxx => s.cxxName

/-- The executable that a compiler name means, or why there is none. -/
def resolve (c : Compilation) (name : String) : SessionM (Except CompilationError Path) :=
  match Language.ofCompilerName? name with
  | none => pure (.error (.unknownCompiler name))
  | some language => do
    let directory := c.settings.toolchain
    let found ← language.findCompiler directory (executableOf c.settings language)
    pure (found.mapError (.compilerNotFound language directory))

/-- The command as it was given, less forbidden flags. -/
def nativeJob (compiler : Path) (i : Invocation) : Job :=
  .native { program := compiler, arguments := i.nativeArguments }

/-- The outcome that a verdict on the native compile means. -/
def outcomeOf : Verdict → Outcome
  | .ok () => .success
  | .error _ => .failure

/-- Run the native compile and the jobs of the replay side by side. -/
def runSideBySide (c : Compilation) (native : Job) (jobs : List Job) :
    SessionM (Verdict × List Verdict) := do
  let early ← (jobs.take c.turn).mapM (Job.run c.runner)
  let verdict ← native.run c.runner
  let late ← (jobs.drop c.turn).mapM (Job.run c.runner)
  pure (verdict, early ++ late)

/-- Run the native compile and the replay; the answer is the outcome of the native compile and the
reports on the sources. -/
def build (c : Compilation) (compiler : Path) (i : Invocation) (naming : Naming) :
    SessionM (Outcome × List Replay.SourceReport) := do
  let plans := (Replay.Recipe.mk compiler c.settings.bitcodeFlags).plans i naming
  let (verdict, verdicts) ←
    c.runSideBySide (nativeJob compiler i) (plans.flatMap Replay.Plan.jobs)
  pure (outcomeOf verdict, Replay.reports plans verdicts)

/-- Attach the bitcode of every source to its object. -/
def attachAll (c : Compilation) (reports : List Replay.SourceReport) :
    SessionM (List Attachment) :=
  (Replay.pairings reports).mapM
    (Attachment.attach c.runner (.ofSettings c.settings) (c.settings.archive.map Archive.mk))

/-- The output that an invocation asks for. -/
def outputOf (i : Invocation) : Path := i.output.getD usualOutput

/-- The command that links objects to the output that the invocation asks for. -/
def linkCommand (compiler : Path) (i : Invocation) (objects : List Path) : Command where
  program := compiler
  arguments := objects.map Path.text ++ i.linkArguments ++ [Flags.output, (outputOf i).text]

/-- Link the output again from the objects that carry references. There is a working output already,
so a failure is only logged. -/
def relink (c : Compilation) (compiler : Path) (i : Invocation) (objects : List Path) :
    SessionM Unit := do
  let output := outputOf i
  Session.say .info .compilation
    ("Linking " ++ output.quoted ++ " from " ++ toString objects.length ++ " objects")
  match ← Session.run c.runner (linkCommand compiler i objects) with
  | .ok () => pure ()
  | .error e =>
    Session.say .error .compilation ("Linking " ++ output.quoted ++ " failed: " ++ e.text)

/-- The directory for objects that are inputs of a later link, if there is such a link. -/
def makeScratch (i : Invocation) : SessionM (Except CompilationError (Option Path)) :=
  if i.compilesOnly then pure (.ok none)
  else do
    let dir := (← get).host.temporaryDirectory
    let made ← Session.onHost (Host.createTemporaryDirectory Attachment.temporaryLead dir)
    pure ((made.map some).mapError .noScratch)

/-- Say where the objects of a failed build are. -/
def keepScratch : Option Path → SessionM Unit
  | none => pure ()
  | some dir => Session.say .warn .compilation ("Keeping intermediate objects in " ++ dir.quoted)

/-- Take a scratch directory away; a failure is logged. -/
def removeScratch : Option Path → SessionM Unit
  | none => pure ()
  | some dir => do
    match ← Session.onHost (Host.about dir (Host.removeDirectory dir)) with
    | .ok () => pure ()
    | .error fault =>
      Session.say .warn .compilation
        ("Could not remove scratch directory " ++ dir.quoted ++ ": " ++ fault.text)

/-- The naming that a scratch directory brings with it. -/
def namingOf : Option Path → Naming
  | some dir => .hidden dir
  | none => .visible

/-- Attach the bitcode of every source and link again. -/
def finish (c : Compilation) (compiler : Path) (i : Invocation)
    (reports : List Replay.SourceReport) : SessionM Unit := do
  let _ ← c.attachAll reports
  if i.compilesOnly then pure () else c.relink compiler i (Replay.newObjects reports)

/-- Build natively and as bitcode. Nothing is attached or linked again unless every build
succeeded. -/
def buildTwice (c : Compilation) (compiler : Path) (i : Invocation) (scratch : Option Path) :
    SessionM Outcome := do
  let (native, reports) ← c.build compiler i (namingOf scratch)
  if native = .failure || Replay.hasFailures reports then do
    keepScratch scratch
    pure .failure
  else do
    c.finish compiler i reports
    removeScratch scratch
    pure .success

/-- Run the compiler as it is, without bitcode. -/
def passThrough (c : Compilation) (compiler : Path) (i : Invocation) (why : Bypass) :
    SessionM Outcome := do
  Session.say .info .compilation ("Not generating bitcode: " ++ why.text)
  outcomeOf <$> (nativeJob compiler i).run c.runner

/-- Run an invocation of a compiler. -/
def compile (c : Compilation) (compiler : Path) (i : Invocation) :
    SessionM (Except CompilationError Outcome) :=
  match i.bypass? c.settings.configuring with
  | some why => .ok <$> c.passThrough compiler i why
  | none => do
    match ← makeScratch i with
    | .error e => pure (.error e)
    | .ok scratch => .ok <$> c.buildTwice compiler i scratch

/-- Run a compiler by its name on a command line. -/
def run (c : Compilation) (name : String) (arguments : List Octets) :
    SessionM (Except CompilationError Outcome) := do
  match ← c.resolve name with
  | .error e => pure (.error e)
  | .ok compiler => c.compile compiler (.ofArguments arguments)

end Compilation

end TwinBuild
