import TwinBuild.Compilation

/-!
# Two tasks side by side

The native compile and the replay run as two tasks beside each other. Each task hands in one report
through a channel with room for two and then lets go of the channel. What started the tasks waits
until both have ended, takes the reports out until nothing is left and nobody can send any more,
and merges what it took into one answer.

This module says which steps the tasks, the channel and their starter can take from a state. A run
is any sequence of such steps, so every order in which the host lets the tasks go on is one.
`Compilation.build` is the run that lets the native compile wait for a given number of jobs.
-/

namespace TwinBuild.SideBySide

open Compilation Replay

/-- One of the two tasks. -/
inductive Task where
  | native
  | replay
deriving DecidableEq, Repr

/-- What a task hands in at its end. -/
inductive TaskReport where
  | native (outcome : Outcome)
  | replay (reports : List SourceReport)
deriving DecidableEq, Repr

/-- The task that hands in a report. -/
def TaskReport.task : TaskReport → Task
  | native _ => .native
  | replay _ => .replay

/-- What the two tasks have to do. -/
structure Work where
  compilation : Compilation
  compiler : Path
  invocation : Invocation
  naming : Naming

namespace Work

variable (w : Work)

/-- What carries the commands of both tasks out. -/
def runner : Runner := w.compilation.runner

/-- What the commands of the replay have in common. -/
def recipe : Recipe := ⟨w.compiler, w.compilation.settings.bitcodeFlags⟩

/-- The plans of the replay. -/
def plans : List Plan := w.recipe.plans w.invocation w.naming

/-- The jobs of a task, in order. -/
def jobs : Task → List Job
  | .native => [nativeJob w.compiler w.invocation]
  | .replay => w.plans.flatMap Plan.jobs

/-- The report of a task, from the verdicts on its jobs. -/
def report : Task → List Verdict → TaskReport
  | .native, verdicts => .native (if verdicts.all (·.isOk) then .success else .failure)
  | .replay, verdicts => .replay (reports w.plans verdicts)

/-- The two tasks one after the other: the outcome of the native compile, and the reports of the
replay. -/
def inTurn : SessionM (Outcome × List SourceReport) := do
  let verdict ← (nativeJob w.compiler w.invocation).run w.runner
  let reports ← Replay.run w.runner w.recipe w.invocation w.naming
  pure (outcomeOf verdict, reports)

end Work

/-- How far a task has come. -/
inductive Progress where
  /-- The task has not been started. -/
  | unborn
  /-- The task is between two jobs: the verdicts so far, and the jobs to do. -/
  | idle (verdicts : List Verdict) (rest : List Job)
  /-- The command of a job is under way. -/
  | busy (verdicts : List Verdict) (job : Job) (rest : List Job)
  /-- A job has failed, and the log does not say so yet. -/
  | failing (verdicts : List Verdict) (job : Job) (e : CommandError) (rest : List Job)
  /-- The report is handed in, and the task still holds the channel. -/
  | delivered
  | ended

/-- What a job leads to once its command has ended. -/
def Progress.afterCommand (verdicts : List Verdict) (job : Job) (rest : List Job) :
    Verdict → Progress
  | .ok () => .idle (verdicts ++ [.ok ()]) rest
  | .error e => .failing verdicts job e rest

/-- The channel: the reports in it, the oldest first, and how many hold it for sending. -/
structure Channel where
  queue : List TaskReport
  senders : Nat

/-- How many reports the channel has room for. -/
def Channel.capacity : Nat := 2

/-- How far what started the tasks has come. -/
inductive Stage where
  /-- There is a channel, held once. -/
  | opened
  /-- The channel is held a second time, for the native task. -/
  | doubled
  /-- The native task is started and has taken over the second hold. -/
  | half
  /-- Both tasks are started, and each has taken over a hold. -/
  | waiting
  /-- Both tasks have ended, and these reports have been taken out. -/
  | collecting (taken : List TaskReport)
  /-- Nothing more can come. -/
  | closed (taken : List TaskReport)

/-- The reports that have been taken out of the channel. -/
def Stage.taken : Stage → List TaskReport
  | collecting taken => taken
  | closed taken => taken
  | _ => []

/-- A state of the two tasks, the channel and what started them. -/
structure State where
  session : Session
  task : Task → Progress
  channel : Channel
  stage : Stage

namespace State

/-- The state with another progress of one task. -/
def advance (σ : State) (t : Task) (p : Progress) : State :=
  { σ with task := fun u => if u = t then p else σ.task u }

/-- The state before anything is started. -/
def initial (s : Session) : State where
  session := s
  task := fun _ => .unborn
  channel := ⟨[], 1⟩
  stage := .opened

end State

/-! ## The answer -/

/-- The outcome that was taken out last. -/
def outcomeIn (taken : List TaskReport) : Option Outcome :=
  taken.foldl (fun last r => match r with
    | .native outcome => some outcome
    | .replay _ => last) none

/-- The reports on the sources that were taken out last. -/
def reportsIn (taken : List TaskReport) : Option (List SourceReport) :=
  taken.foldl (fun last r => match r with
    | .native _ => last
    | .replay reports => some reports) none

/-- What the reports amount to. Where one of the two is missing, the build has failed. -/
def merge (taken : List TaskReport) : Outcome × List SourceReport :=
  match outcomeIn taken, reportsIn taken with
  | some outcome, some reports => (outcome, reports)
  | _, _ => (.failure, [])

/-! ## Steps -/

/-- Announce a command in the log, if the runner announces its commands. -/
def announce (runner : Runner) (command : Command) : SessionM Unit := do
  if runner.announces then Session.say .trace .command ("Running " ++ command.rendered)

/-- One step of a task, of the channel or of what started the tasks. A task whose report finds no
room in the channel has no step, and neither has a starter who waits for a report. -/
inductive Step (w : Work) : State → State → Prop
  | double {σ : State} (h : σ.stage = .opened) :
    Step w σ
      { σ with
        stage := .doubled
        channel := { σ.channel with senders := σ.channel.senders + 1 } }
  | startNative {σ : State} (h : σ.stage = .doubled) :
    Step w σ { σ.advance .native (.idle [] (w.jobs .native)) with stage := .half }
  | startReplay {σ : State} (h : σ.stage = .half) :
    Step w σ { σ.advance .replay (.idle [] (w.jobs .replay)) with stage := .waiting }
  | begin {σ : State} (t : Task) {verdicts : List Verdict} {job : Job} {rest : List Job}
      (h : σ.task t = .idle verdicts (job :: rest)) :
    Step w σ
      { σ.advance t (.busy verdicts job rest) with
        session := ((announce w.runner job.command).run σ.session).2 }
  | finish {σ : State} (t : Task) {verdicts : List Verdict} {job : Job} {rest : List Job}
      (h : σ.task t = .busy verdicts job rest) :
    Step w σ
      { σ.advance t (.afterCommand verdicts job rest
            ((Session.issue w.runner job.command).run σ.session).1) with
        session := ((Session.issue w.runner job.command).run σ.session).2 }
  | complain {σ : State} (t : Task) {verdicts : List Verdict} {job : Job} {e : CommandError}
      {rest : List Job} (h : σ.task t = .failing verdicts job e rest) :
    Step w σ
      { σ.advance t (.idle (verdicts ++ [.error e]) rest) with
        session := ((Session.say .error job.part (job.complaint e)).run σ.session).2 }
  | send {σ : State} (t : Task) {verdicts : List Verdict} (h : σ.task t = .idle verdicts [])
      (room : σ.channel.queue.length < Channel.capacity) :
    Step w σ
      { σ.advance t .delivered with
        channel := { σ.channel with queue := σ.channel.queue ++ [w.report t verdicts] } }
  | release {σ : State} (t : Task) (h : σ.task t = .delivered) :
    Step w σ
      { σ.advance t .ended with
        channel := { σ.channel with senders := σ.channel.senders - 1 } }
  | join {σ : State} (h : σ.stage = .waiting) (ended : ∀ t, σ.task t = .ended) :
    Step w σ { σ with stage := .collecting [] }
  | receive {σ : State} {taken rest : List TaskReport} {r : TaskReport}
      (h : σ.stage = .collecting taken) (queue : σ.channel.queue = r :: rest) :
    Step w σ
      { σ with
        stage := .collecting (taken ++ [r])
        channel := { σ.channel with queue := rest } }
  | close {σ : State} {taken : List TaskReport} (h : σ.stage = .collecting taken)
      (queue : σ.channel.queue = []) (senders : σ.channel.senders = 0) :
    Step w σ { σ with stage := .closed taken }

end TwinBuild.SideBySide
