import TwinBuild.Command
import TwinBuild.Log
import TwinBuild.System.Host

/-!
# Sessions

A session is the host together with what the run itself has done to be seen: the commands it
issued, each with the host as it was just before and the verdict, and the records it logged. A
runner is what carries commands out; it sees the commands before and changes the host alone.

Main statement: `issued_run`, running a command adds one entry to the journal.
-/

namespace TwinBuild

/-- What carries commands out. -/
structure Runner where
  /-- Whether each command is announced in the log before it starts. -/
  announces : Bool := false
  /-- The verdict on a command, and the host it leaves. What a runner does may depend on the commands
  it was given before. -/
  run : List Command → Command → Host → Verdict × Host

/-- A command that was issued, the host just before, and the verdict. -/
structure Issue where
  command : Command
  before : Host
  verdict : Verdict

/-- A run in progress. -/
structure Session where
  host : Host
  issued : List Issue := []
  log : List Log.Record := []

/-- A computation in a session. -/
abbrev SessionM := StateM Session

namespace Session

/-- Log a record. -/
def say (level : Log.Level) (part : Log.Part) (text : String) : SessionM Unit :=
  modify fun s => { s with log := s.log ++ [⟨level, part, text⟩] }

/-- Do something on the host that may fail. -/
def onHost {ε α : Type} (act : ExceptT ε (StateM Host) α) : SessionM (Except ε α) := fun s =>
  let (result, host) := act.run.run s.host
  (result, { s with host := host })

/-- The commands issued so far, in order. -/
def commands (s : Session) : List Command := s.issued.map Issue.command

/-- Issue a command and note it in the journal. -/
def issue (runner : Runner) (command : Command) : SessionM Verdict := fun s =>
  let (verdict, host) := runner.run s.commands command s.host
  (verdict, { s with host := host, issued := s.issued ++ [⟨command, s.host, verdict⟩] })

/-- Run a command, announced in the log if the runner announces its commands. -/
def run (runner : Runner) (command : Command) : SessionM Verdict := do
  if runner.announces then say .trace .command ("Running " ++ command.rendered)
  issue runner command

/-! ## What a computation does to its session -/

theorem run_pure {α : Type} (a : α) (s : Session) : (pure a : SessionM α).run s = (a, s) := rfl

theorem run_bind {α β : Type} (x : SessionM α) (f : α → SessionM β) (s : Session) :
    (x >>= f).run s = (f (x.run s).1).run (x.run s).2 := rfl

theorem run_say (level : Log.Level) (part : Log.Part) (text : String) (s : Session) :
    (say level part text).run s = ((), { s with log := s.log ++ [⟨level, part, text⟩] }) := rfl

theorem run_onHost {ε α : Type} (act : ExceptT ε (StateM Host) α) (s : Session) :
    (onHost act).run s
      = ((act.run.run s.host).1, { s with host := (act.run.run s.host).2 }) := rfl

/-- The verdict on a command is the runner's, whether or not the command was announced. -/
theorem verdict_run (runner : Runner) (command : Command) (s : Session) :
    ((run runner command).run s).1 = (runner.run s.commands command s.host).1 := by
  unfold run
  cases runner.announces <;> rfl

/-- A command leaves the host as the runner does. -/
theorem host_run (runner : Runner) (command : Command) (s : Session) :
    ((run runner command).run s).2.host = (runner.run s.commands command s.host).2 := by
  unfold run
  cases runner.announces <;> rfl

/-- Running a command adds one entry to the journal: the command, the host as it was just before, and
the verdict of the runner there. -/
theorem issued_run (runner : Runner) (command : Command) (s : Session) :
    ((run runner command).run s).2.issued
      = s.issued ++ [⟨command, s.host, (runner.run s.commands command s.host).1⟩] := by
  unfold run
  cases runner.announces <;> rfl

end Session

end TwinBuild
