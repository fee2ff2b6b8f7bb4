import TwinBuild.CommandLine.Message
import TwinBuild.Compilation
import TwinBuild.Log.Filter
import TwinBuild.Text.Plain

/-!
# The program

From a command line and a host to an exit status and what the terminal shows: the settings of the
environment with those of the command line before them, the compilation, the records that the log
filter lets through, and the report if nothing was run.

Not kept here is the debugging record with which a request begins, a dump of the compiler's name and
of all settings in their internal form. No other part of the program depends on it.
-/

namespace TwinBuild

/-- Why a request came to nothing. -/
inductive RequestError where
  /-- An argument of the compiler is not text. -/
  | notText (argument : Octets)
  | compilation (e : CompilationError)
deriving DecidableEq, Repr

namespace RequestError

/-- The report that the user sees. -/
def report : RequestError → Report
  | notText argument =>
    { title := "Invalid Argument"
      message := some ("The compiler argument " ++ Quoted.quote argument ++ " is not valid UTF-8.") }
  | compilation e => e.report

/-- The exit status of a request that came to nothing. -/
def exitCode (_ : RequestError) : Nat := 1

end RequestError

namespace Request

/-- The settings of a request: what the environment chooses, overridden by the command line. -/
def settings (r : Request) (h : Host) : Settings :=
  (Settings.ofLookup h.valueOf).override r.overrides

/-- The compilation that a request asks for on a host. -/
def compilation (runner : Runner) (r : Request) (turn : Nat) (h : Host) : Compilation where
  settings := r.settings h
  runner := runner
  turn := turn

/-- Run a request with a runner. -/
def run (runner : Runner) (r : Request) (turn : Nat := 0) :
    SessionM (Except RequestError Outcome) :=
  match r.arguments.find? fun a => !Utf8.isValid a with
  | some argument => pure (.error (.notText argument))
  | none => do
    let c := r.compilation runner turn (← get).host
    let result ← c.run r.compiler r.arguments
    pure (result.mapError .compilation)

end Request

/-- What a run shows and how it ends. -/
structure Transcript where
  /-- What is written to standard output. -/
  output : String := ""
  /-- What is written to standard error. -/
  errors : String := ""
  exitCode : Nat
deriving DecidableEq, Repr

namespace Program

/-- The log filter of a request. -/
def filterOf (r : Request) (h : Host) : Log.Filter × List Log.FilterFault :=
  Log.Filter.ofTexts ((h.valueOf Log.Filter.variableName).bind Utf8.decode?) r.logFilter

/-- The transcript of a request that has been run. -/
def transcript (filter : Log.Filter × List Log.FilterFault) (log : List Log.Record)
    (result : Except RequestError Outcome) : Transcript :=
  let warnings := filter.2.map fun fault => fault.text ++ "\n"
  let records := (log.filter filter.1.shows).map fun r => Plain.ofStream (r.line ++ "\n")
  let shown := String.join (warnings ++ records)
  match result with
  | .ok outcome => { errors := shown, exitCode := outcome.exitCode }
  | .error e => { errors := shown ++ e.report.text, exitCode := e.exitCode }

/-- The transcript of a refusal: answers that were asked for go to standard output. -/
def refusalTranscript (arguments : List Octets) (r : Refusal) : Transcript :=
  let text := r.text Plain.ofStream (CommandLine.nameOf arguments)
  if r.isAnswer then { output := text, exitCode := r.exitCode }
  else { errors := text, exitCode := r.exitCode }

/-- Run the program on a host; the first argument is the name under which it was started. -/
def run (runner : Runner) (arguments : List Octets) (h : Host) : Transcript × Host :=
  match CommandLine.read arguments with
  | .error refusal => (refusalTranscript arguments refusal, h)
  | .ok request =>
    let (result, session) := (request.run runner).run { host := h }
    (transcript (filterOf request h) session.log result, session.host)

end Program

end TwinBuild
