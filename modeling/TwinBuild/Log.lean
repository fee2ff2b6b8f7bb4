/-!
# Log records

A record has a level, the part of the program that wrote it, and a text. Filters select records by
level and by the name of the part.
-/

namespace TwinBuild.Log

/-- How grave a record is, the gravest first. -/
inductive Level where
  | error
  | warn
  | info
  | debug
  | trace
deriving DecidableEq, Repr

namespace Level

/-- The rank of a level; graver levels rank lower. -/
def rank : Level → Nat
  | error => 1
  | warn => 2
  | info => 3
  | debug => 4
  | trace => 5

/-- The name that log lines give a level. -/
def name : Level → String
  | error => "error"
  | warn => "warn"
  | info => "info"
  | debug => "debug"
  | trace => "trace"

end Level

/-- The parts of the program that write records. -/
inductive Part where
  /-- The search for executables. -/
  | search
  /-- The running of commands. -/
  | command
  /-- The building of objects and bitcode. -/
  | build
  /-- The attaching of bitcode to objects. -/
  | attachment
  /-- The run of an invocation as a whole. -/
  | compilation
deriving DecidableEq, Repr

/-- The name by which filters select a part. -/
def Part.name : Part → String
  | search => "find_tool::tool"
  | command => "dualcc_driver::exec"
  | build => "dualcc_driver::dual_build"
  | attachment => "dualcc_driver::attach"
  | compilation => "dualcc_driver::compile"

/-- One record of the log. -/
structure Record where
  level : Level
  part : Part
  text : String
deriving DecidableEq, Repr

/-- The line that shows a record; a text of several lines goes on without a mark. -/
def Record.line (r : Record) : String := "dualcc[" ++ r.level.name ++ "]: " ++ r.text

end TwinBuild.Log
