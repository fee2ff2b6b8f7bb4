import TwinBuild.Session

/-!
# Starting programs

A program named with a slash is started as it is; any other name is tried in each directory of the
search list. Programs leave the host unchanged here and say their exit status.
-/

namespace TwinBuild.Host

/-- The search list where the environment has none. -/
def usualSearchList : Octets := Octets.ofString "/bin:/usr/bin"

/-- The status that a program's number gives: its lowest octet. -/
def status (n : Nat) : Nat := n % 256

/-- The status with which the command interpreter ends, for a text that only exits. -/
def shellStatus (arguments : List Octets) : Nat :=
  match arguments with
  | _ :: text :: _ =>
    match Separated.split 32 text with
    | [_, digits] => status (digits.foldl (fun n b => n * 10 + (b.toNat - 48)) 0)
    | _ => 0
  | _ => 0

/-- The status with which a started file ends, or why it cannot be started. -/
def startPath (h : Host) (arguments : List Octets) (p : Path) : Except Fault Nat := do
  match ← h.lookup p with
  | (_, none) => throw (.refused .noEntry)
  | (_, some .directory) => throw (.refused .denied)
  | (_, some (.file f)) =>
    if !f.executable then throw (.refused .denied)
    else match f.behaviour with
      | .none => throw (.refused .notAProgram)
      | .shell => pure (shellStatus arguments)
      | .script usual failures =>
        pure (status (((failures.find? fun e => arguments.contains e.1).map (·.2)).getD usual))

/-- Try a name in the directories of the search list; a file that may not be started is passed over
but remembered. -/
def startFrom (h : Host) (arguments : List Octets) (name : Octets) (denied : Bool) :
    List Octets → Except Fault Nat
  | [] => .error (.refused (if denied then .denied else .noEntry))
  | dir :: rest =>
    match h.startPath arguments ⟨if dir.isEmpty then name else dir ++ [Octets.slash] ++ name⟩ with
    | .ok code => .ok code
    | .error fault =>
      if fault = .refused .denied then startFrom h arguments name true rest
      else if fault = .refused .noEntry || fault = .refused .notADirectory then
        startFrom h arguments name denied rest
      else .error fault

/-- The status of a program, started from the current directory. -/
def startProgram (h : Host) (program : Octets) (arguments : List Octets) : Except Fault Nat :=
  if program.isEmpty then .error (.refused .noEntry)
  else if program.contains Octets.slash then h.startPath arguments ⟨program⟩
  else
    let list := (h.valueOf (Octets.ofString "PATH")).getD usualSearchList
    h.startFrom arguments program false (Separated.split Octets.colon list)

/-- The status of a command, started from its directory if it names one. -/
def start (h : Host) (c : Command) : Except Fault Nat := do
  let words := c.program.text :: c.directory.toList.map Path.text ++ c.arguments
  if words.any (·.contains 0) then throw .nulInArgument
  match c.directory with
  | none => h.startProgram c.program.text c.arguments
  | some dir =>
    let cwd ← (h.files.enter h.cwd dir).mapError .refused
    Host.startProgram { h with cwd } c.program.text c.arguments

end Host

/-- The runner that starts programs. -/
def systemRunner : Runner where
  announces := true
  run _ c h :=
    match h.start c with
    | .error fault => (.error (.notStarted c.rendered fault), h)
    | .ok 0 => (.ok (), h)
    | .ok code => (.error (.failed c.rendered (some code)), h)

end TwinBuild
