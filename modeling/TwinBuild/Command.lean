import TwinBuild.System.Fault

/-!
# Commands

A command is a program with its arguments, and perhaps a directory to start it in. What running
one says is its verdict: success, or why it failed.
-/

namespace TwinBuild

/-- A program to start, its arguments, and the directory to start it in if not the current one. -/
structure Command where
  program : Path
  arguments : List Octets := []
  directory : Option Path := none
deriving DecidableEq, Repr

namespace Command

/-- The command with one more argument. -/
def withArgument (c : Command) (argument : Octets) : Command :=
  { c with arguments := c.arguments ++ [argument] }

/-- The command with more arguments. -/
def withArguments (c : Command) (more : List Octets) : Command :=
  { c with arguments := c.arguments ++ more }

/-- The command started in a directory. -/
def startedIn (c : Command) (directory : Path) : Command := { c with directory := some directory }

/-- A word of a command as messages show it. No word that holds a zero octet can be passed on, and none
is shown. -/
def shownWord (word : Octets) : String :=
  if word.contains 0 then "<string-with-nul>" else Utf8.lossy word

/-- The command as messages show it: its words with a space between neighbours, unquoted. -/
def rendered (c : Command) : String :=
  " ".intercalate ((c.program.text :: c.arguments).map shownWord)

end Command

/-- Why a command failed; the command is kept as messages show it. -/
inductive CommandError where
  /-- The program could not be started. -/
  | notStarted (command : String) (fault : Fault)
  /-- The program ended badly: with a status, or by a signal if there is none. -/
  | failed (command : String) (status : Option Int)
deriving DecidableEq, Repr

/-- What a message says of a failed command. -/
def CommandError.text : CommandError → String
  | .notStarted command fault => "could not spawn '" ++ command ++ "': " ++ fault.text
  | .failed command (some status) => "'" ++ command ++ "' exited with status " ++ toString status
  | .failed command none => "'" ++ command ++ "' was terminated by a signal"

/-- What running a command says. -/
abbrev Verdict := Except CommandError Unit

end TwinBuild
