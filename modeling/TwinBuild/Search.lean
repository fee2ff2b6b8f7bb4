import TwinBuild.Session
import TwinBuild.System.Executable

/-!
# Ordered search for an executable

An executable is looked for by one strategy after the other. A variable that is set decides the
search, for good or bad; a name that is not found leaves it to the strategies after it. Every
probe leaves an entry in the search log, which a failed search shows to the user.
-/

namespace TwinBuild

/-- A way to find an executable. -/
inductive Strategy where
  /-- The value of an environment variable. -/
  | environment (key : Octets)
  /-- A name, looked for as names of executables are. -/
  | name (executable : Octets)
deriving DecidableEq, Repr

/-- Why a variable has no text to go by. -/
inductive VariableFault where
  | unset
  | undecodable (value : Octets)
deriving DecidableEq, Repr

/-- What the search log says of a variable without a text. -/
def VariableFault.text : VariableFault → String
  | unset => "environment variable not found"
  | undecodable value => "environment variable was not valid unicode: " ++ Quoted.quote value

/-- What one strategy came to. -/
inductive Probe where
  | unreadable (key : Octets) (fault : VariableFault)
  | environment (key value : Octets) (found : Except LookupFault Path)
  | name (executable : Octets) (found : Except LookupFault Path)
deriving Repr

namespace Probe

/-- The entry of a probe in the search log. -/
def text : Probe → String
  | unreadable key fault =>
    "Environment variable '" ++ Utf8.lossy key ++ "': " ++ fault.text
  | environment key value found =>
    "Environment variable " ++ Utf8.lossy key ++ "=" ++ Utf8.lossy value
      ++ (match found with
        | .ok path => " names '" ++ path.lossy ++ "'"
        | .error fault => " does not name an executable: " ++ fault.text)
  | name executable found =>
    "Executable '" ++ Utf8.lossy executable ++ "'"
      ++ (match found with
        | .ok path => " found at '" ++ path.lossy ++ "'"
        | .error fault => " not usable: " ++ fault.text)

/-- What a probe decides: `none` leaves it to the strategies after it, `some none` gives up. -/
def decision : Probe → Option (Option Path)
  | unreadable _ _ => none
  | environment _ _ found => some found.toOption
  | name _ (.ok path) => some (some path)
  | name _ (.error _) => none

end Probe

namespace Strategy

/-- Try one strategy on a host. -/
def probe (h : Host) : Strategy → Probe
  | environment key =>
    match h.valueOf key with
    | none => .unreadable key .unset
    | some value =>
      if Utf8.isValid value then .environment key value (h.findExecutable ⟨value⟩)
      else .unreadable key (.undecodable value)
  | name executable => .name executable (h.findExecutable ⟨executable⟩)

end Strategy

namespace Search

/-- The probes of a search, up to the first that decides it, and its decision. -/
def search (h : Host) : List Strategy → List Probe × Option Path
  | [] => ([], none)
  | s :: rest =>
    match (s.probe h).decision with
    | some found => ([s.probe h], found)
    | none => (s.probe h :: (search h rest).1, (search h rest).2)

/-- The text of a search log: a line for each probe. -/
def logText (probes : List Probe) : String :=
  String.join (probes.map fun p => "- " ++ p.text ++ "\n")

/-- Search for a tool by its strategies; the error is the text of the search log. -/
def find (tool : String) (strategies : List Strategy) : SessionM (Except String Path) := do
  let (probes, found) := search (← get).host strategies
  Session.say .debug .search ("Searching for '" ++ tool ++ "':\n" ++ logText probes)
  match found with
  | some path => pure (.ok path)
  | none => pure (.error (logText probes))

end Search

end TwinBuild
