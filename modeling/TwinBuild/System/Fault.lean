import TwinBuild.Path
import TwinBuild.System.Errno

/-!
# Faults

Why an operation on the host failed, with the text that messages give for it.
-/

namespace TwinBuild

/-- Why an operation on the host failed. -/
inductive Fault where
  /-- The operating system refused. -/
  | refused (number : Errno)
  /-- A fault that concerns a temporary file or directory, which is named. -/
  | atPath (fault : Fault) (path : Path)
  /-- The empty path names no place. -/
  | emptyPath
  /-- A name holds an octet that no name can hold. -/
  | nulInName
  /-- An argument holds an octet that no argument can hold. -/
  | nulInArgument
deriving DecidableEq, Repr

/-- What a message says of a fault. -/
def Fault.text : Fault → String
  | .refused number => number.text
  | .atPath fault path => fault.text ++ " at path " ++ path.quoted
  | .emptyPath => "cannot make an empty path absolute"
  | .nulInName => "file name contained an unexpected NUL byte"
  | .nulInArgument => "nul byte found in provided data"

end TwinBuild
