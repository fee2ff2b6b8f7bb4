import TwinBuild.Session

/-!
# Rehearsals

A rehearsal runs commands by rules instead of starting programs: the first rule that a command
meets says how it ends, and a command that meets none succeeds. A command that succeeds may leave
a trace on the host: an emptied directory for temporary files, or an output that names the command.
-/

namespace TwinBuild

/-- How a rehearsed command ends. -/
inductive Ending where
  | success
  /-- The program is not started. -/
  | notStarted (number : Errno)
  /-- A signal ends the program. -/
  | signalled
  /-- The program exits with a status that means failure. -/
  | status (code : Int)
deriving DecidableEq, Repr

/-- A rule: which commands meet it, and how they end. -/
structure Rule where
  /-- The program, if it matters. -/
  program : Option Octets := none
  /-- The arguments that must be there. -/
  required : List Octets := []
  /-- The arguments that must not be there. -/
  excluded : List Octets := []
  ending : Ending := .success
  /-- Whether success empties the directory for temporary files. -/
  clears : Bool := false
deriving DecidableEq, Repr

/-- Whether a command meets a rule. -/
def Rule.isMet (r : Rule) (c : Command) : Bool :=
  (r.program.all (· == c.program.text)) && r.required.all c.arguments.contains
    && !r.excluded.any c.arguments.contains

/-- The verdict that an ending means for a command. -/
def Ending.verdict (c : Command) : Ending → Verdict
  | success => .ok ()
  | notStarted number => .error (.notStarted c.rendered (.refused number))
  | signalled => .error (.failed c.rendered none)
  | status code => .error (.failed c.rendered (some code))

/-- The rules of a rehearsal, and what successful commands leave behind. -/
structure Rehearsal where
  rules : List Rule := []
  /-- Whether commands write the output that they name. -/
  writesOutputs : Bool := false
  /-- The directory for temporary files. -/
  temporary : Place := []

namespace Rehearsal

/-- The output that a command names first. -/
def outputOf (c : Command) : Option Path :=
  match c.arguments.dropWhile (· ≠ Octets.ofString "-o") with
  | _ :: output :: _ => some ⟨output⟩
  | _ => none

/-- The content of an output that a command has written. -/
def traceOf (c : Command) : Octets := Octets.ofString ("built by: " ++ c.rendered ++ "\n")

/-- Write the output of a command, and make the directories above it; failures are passed over. -/
def writeOutput (c : Command) (h : Host) : Host :=
  match outputOf c with
  | none => h
  | some output =>
    let act : HostAct Unit := do
      match output.parent? with
      | none => pure ()
      | some above => tryCatch (Host.makeDirectories above) fun _ => pure ()
      Host.writeFile output (traceOf c)
    (act h).2

/-- Empty a directory, or make it. -/
def clear (place : Place) (h : Host) : Host :=
  h.update ((h.files.remove place).put place .directory)

/-- The runner of a rehearsal. -/
def runner (r : Rehearsal) : Runner where
  run _ c h :=
    let rule := (r.rules.find? (·.isMet c)).getD {}
    match rule.ending.verdict c with
    | .error e => (.error e, h)
    | .ok () =>
      let h := if rule.clears then clear r.temporary h else h
      (.ok (), if r.writesOutputs then writeOutput c h else h)

end Rehearsal

end TwinBuild
