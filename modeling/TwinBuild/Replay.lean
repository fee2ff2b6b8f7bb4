import TwinBuild.Attachment

/-!
# Replaying an invocation source by source

An invocation is replayed once for every source: to a bitcode file, unless the source is one, and
under hidden naming to an object of its own. The jobs are known before any is run, every job is
run whatever became of those before it, and the reports are read off the verdicts.

Main statement: `length_reports`, there is one report for each source.
-/

namespace TwinBuild

/-- A command of a run, with what the log says if it fails. -/
inductive Job where
  /-- The compile that the user asked for. -/
  | native (command : Command)
  /-- The object of a source. -/
  | object (source : Path) (command : Command)
  /-- The bitcode of a source. -/
  | bitcode (source : Path) (command : Command)
deriving DecidableEq, Repr

namespace Job

/-- The command of a job. -/
def command : Job → Command
  | native c => c
  | object _ c => c
  | bitcode _ c => c

/-- The part of the program that a job belongs to. -/
def part : Job → Log.Part
  | native _ => .compilation
  | object _ _ => .build
  | bitcode _ _ => .build

/-- What the log says of a job that failed. -/
def complaint (e : CommandError) : Job → String
  | native _ => e.text
  | object source _ => "Failed to build object file for " ++ source.quoted ++ ": " ++ e.text
  | bitcode source _ => "Failed to build bitcode file for " ++ source.quoted ++ ": " ++ e.text

/-- Run a job; a failure is logged. -/
def run (runner : Runner) (job : Job) : SessionM Verdict := do
  let verdict ← Session.run runner job.command
  match verdict with
  | .ok () => pure ()
  | .error e => Session.say .error job.part (job.complaint e)
  pure verdict

end Job

namespace Replay

/-- What all commands of a replay have in common. -/
structure Recipe where
  compiler : Path
  /-- The flags that bitcode builds get beyond those of the command line. -/
  bitcodeFlags : List Octets := []

/-- The command that makes the object of a source. -/
def Recipe.objectCommand (r : Recipe) (i : Invocation) (source object : Path) : Command where
  program := r.compiler
  arguments := i.compileArguments
    ++ [source.text, Flags.compileOnly, Flags.output, object.text]

/-- The command that makes the bitcode of a source. -/
def Recipe.bitcodeCommand (r : Recipe) (i : Invocation) (source bitcode : Path) : Command where
  program := r.compiler
  arguments := i.compileArguments ++ r.bitcodeFlags
    ++ [Flags.emitBitcode, Flags.compileOnly, source.text, Flags.output, bitcode.text]

/-- What is to be done for a source. -/
structure Plan where
  source : Path
  artifact : Artifact
  objectJob : Option Job
  bitcodeJob : Option Job
deriving DecidableEq, Repr

/-- The jobs of a plan, in order. -/
def Plan.jobs (p : Plan) : List Job := p.objectJob.toList ++ p.bitcodeJob.toList

/-- Whether objects are made under a naming. Visible ones are made by the native compile. -/
def makesObjects : Naming → Bool
  | .visible => false
  | .hidden _ => true

/-- The plan for the source with a number and name. -/
def Recipe.plan (r : Recipe) (i : Invocation) (naming : Naming) (index : Nat) (source : Path) :
    Plan :=
  let artifact := i.artifactOf naming index source
  { source := source
    artifact := artifact
    objectJob :=
      if makesObjects naming then some (.object source (r.objectCommand i source artifact.object))
      else none
    bitcodeJob :=
      if source.isBitcode then none
      else some (.bitcode source (r.bitcodeCommand i source artifact.bitcode)) }

/-- The plans for the sources of an invocation, in order. -/
def Recipe.plans (r : Recipe) (i : Invocation) (naming : Naming) : List Plan :=
  i.sources.mapIdx fun index source => r.plan i naming index source

/-- What became of a job that a plan may hold. -/
inductive Step where
  | built
  | skipped
  | failed (e : CommandError)
deriving DecidableEq, Repr

/-- What a verdict makes of a job; no verdict means that there was no job. -/
def Step.ofVerdict : Option Verdict → Step
  | none => .skipped
  | some (.ok ()) => .built
  | some (.error e) => .failed e

/-- Whether the job failed. -/
def Step.isFailed : Step → Bool
  | .failed _ => true
  | _ => false

/-- What became of a source. -/
structure SourceReport where
  source : Path
  artifact : Artifact
  object : Step
  bitcode : Step
deriving DecidableEq, Repr

namespace SourceReport

/-- The bitcode of a source; a source that is bitcode is its own. -/
def bitcodePath (r : SourceReport) : Path :=
  match r.bitcode with
  | .skipped => r.source
  | _ => r.artifact.bitcode

/-- Whether a job for the source failed. -/
def hasFailed (r : SourceReport) : Bool := r.object.isFailed || r.bitcode.isFailed

/-- The bitcode and the object of a source, if no job for it failed. -/
def pairing? (r : SourceReport) : Option Pairing :=
  if r.hasFailed then none else some ⟨r.bitcodePath, r.artifact.object⟩

/-- The object of a source, if it was made here. -/
def newObject? (r : SourceReport) : Option Path :=
  if r.object = .built then some r.artifact.object else none

end SourceReport

/-- The verdict for a job that a plan may hold, and the verdicts for the jobs after it. -/
def takeVerdict (job : Option Job) (verdicts : List Verdict) : Option Verdict × List Verdict :=
  match job, verdicts with
  | some _, v :: rest => (some v, rest)
  | _, verdicts => (none, verdicts)

/-- The reports that the verdicts on the jobs of the plans amount to, in order. -/
def reports : List Plan → List Verdict → List SourceReport
  | [], _ => []
  | p :: plans, verdicts =>
    let (object, verdicts) := takeVerdict p.objectJob verdicts
    let (bitcode, verdicts) := takeVerdict p.bitcodeJob verdicts
    ⟨p.source, p.artifact, .ofVerdict object, .ofVerdict bitcode⟩ :: reports plans verdicts

theorem length_reports (plans : List Plan) (verdicts : List Verdict) :
    (reports plans verdicts).length = plans.length := by
  induction plans generalizing verdicts with
  | nil => rfl
  | cons p plans ih => simp [reports, ih]

/-- The pairs to attach, in order. -/
def pairings (rs : List SourceReport) : List Pairing := rs.filterMap SourceReport.pairing?

/-- The objects made here, in order. -/
def newObjects (rs : List SourceReport) : List Path := rs.filterMap SourceReport.newObject?

/-- Whether any job failed. -/
def hasFailures (rs : List SourceReport) : Bool := rs.any SourceReport.hasFailed

/-- Replay an invocation: run every job in order. -/
def run (runner : Runner) (r : Recipe) (i : Invocation) (naming : Naming) :
    SessionM (List SourceReport) := do
  let plans := r.plans i naming
  let verdicts ← (plans.flatMap Plan.jobs).mapM (Job.run runner)
  pure (reports plans verdicts)

end Replay

end TwinBuild
