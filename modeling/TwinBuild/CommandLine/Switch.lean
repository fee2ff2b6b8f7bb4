import TwinBuild.Octets

/-!
# Switches

The options of the program's own command line: their names, which of them take a value, and how
messages show them.
-/

namespace TwinBuild

/-- An option of the command line. -/
inductive Switch where
  | toolchain
  | archive
  | configuring
  | log
  | help
  | version
deriving DecidableEq, Repr

namespace Switch

/-- The switches, in the order in which help lists them. -/
def all : List Switch := [toolchain, archive, configuring, log, help, version]

/-- The name of a switch, without the hyphens before it. -/
def name : Switch → String
  | toolchain => "toolchain-dir"
  | archive => "bitcode-store"
  | configuring => "configure-only"
  | log => "log"
  | help => "help"
  | version => "version"

/-- Whether a switch takes a value. -/
def takesValue : Switch → Bool
  | toolchain => true
  | archive => true
  | log => true
  | _ => false

/-- The letter that stands for a switch. -/
def letter? : Switch → Option Char
  | help => some 'h'
  | version => some 'V'
  | _ => none

/-- A switch as messages and usage lines show it. -/
def shown (s : Switch) : String :=
  if s.takesValue then "--" ++ s.name ++ " <" ++ s.name ++ ">" else "--" ++ s.name

/-- The switch of a name. -/
def ofName? (name : Octets) : Option Switch := all.find? fun s => Octets.ofString s.name == name

/-- The switch of a letter. -/
def ofLetter? (c : Char) : Option Switch := all.find? fun s => s.letter? == some c

theorem mem_all (s : Switch) : s ∈ all := by cases s <;> simp [all]

/-- Every switch is found by its name. -/
theorem ofName?_name (s : Switch) : ofName? (Octets.ofString s.name) = some s := by
  cases s <;> rfl

end Switch

end TwinBuild
