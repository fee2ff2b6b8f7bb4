import TwinBuild.Program
import TwinBuild.System.Process

/-!
# The command

Runs the program on a host that is described to it: the arguments are a command line with the name
of the program first, the environment is the one of this process, and standard input lists the
programs that the host has, one absolute path a line. Every listed program succeeds; with
`--log trace` the commands are shown in the order in which they would be started.
-/

namespace TwinBuild.Main

/-- The names of the variables that a run reads. -/
def readNames : List Octets :=
  [Host.searchVariable, Host.homeVariable, Host.temporaryVariable, Log.Filter.variableName,
    Settings.toolchainVariable, Settings.cNameVariable, Settings.cxxNameVariable,
    Settings.archiveVariable, Settings.configuringVariable, Settings.objcopyVariable,
    Settings.ldVariable, Settings.bitcodeFlagsVariable,
    Octets.ofString Language.c.pathVariable, Octets.ofString Language.cxx.pathVariable]

/-- A program that succeeds whatever it is given. -/
def willing : File := { content := [], executable := true, behaviour := .script 0 [] }

/-- A host with programs, a current directory and an environment. -/
def host (programs : List Path) (current : Path) (environment : List (Octets × Octets)) : Host :=
  let bare : Host := { files := .empty, cwd := { place := Place.resolve [] current }, environment }
  let furnish : HostAct Unit := do
    Host.makeDirectories current
    Host.makeDirectories bare.temporaryDirectory
  let furnished := (furnish bare).2
  programs.foldl (fun h p => (Host.install p willing h).2) furnished

/-- The value of a variable of this process, with its name. -/
def variableOf (name : Octets) : IO (Option (Octets × Octets)) := do
  return (← IO.getEnv (Utf8.lossy name)).map fun value => (name, Octets.ofString value)

/-- The lines of standard input. -/
partial def readLines (input : IO.FS.Stream) (done : List String) : IO (List String) := do
  let line ← input.getLine
  if line.isEmpty then return done.reverse
  readLines input (line :: done)

/-- Run the program and show its transcript. -/
def run (arguments : List String) : IO UInt32 := do
  let environment ← readNames.filterMapM variableOf
  let current := (← IO.getEnv "PWD").getD "/"
  let listed ← readLines (← IO.getStdin) []
  let programs := (listed.flatMap fun line => Text.lines line.toList).filter (· != [])
  let h := host (programs.map fun name => .ofString (String.ofList name)) (.ofString current)
    environment
  let (transcript, _) := Program.run systemRunner (arguments.map Octets.ofString) h
  IO.print transcript.output
  IO.eprint transcript.errors
  return transcript.exitCode.toUInt32

end TwinBuild.Main

/-- The command: exits with the status of the run. -/
def main (arguments : List String) : IO UInt32 := TwinBuild.Main.run arguments
