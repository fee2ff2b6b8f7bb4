import TwinBuild.CommandLine

/-!
# What the command line answers

The help text, the usage lines and the messages about command lines that ask for nothing that can
be run. A usage line is short where nothing was given, and repeats what was given otherwise.
-/

namespace TwinBuild.CommandLine

/-- The name of the program. -/
def usualName : String := "dualcc"

/-- The version of the program. -/
def versionNumber : String := "0.1.0"

/-- The name under which the program was started, as usage lines show it. -/
def nameOf (arguments : List Octets) : String :=
  ((arguments.head?.bind fun program => (Path.mk program).fileName).bind Utf8.decode?).getD usualName

/-- The place of the compiler in usage lines. -/
def compilerPlace : String := "<compiler>"

/-- The place of the compiler's arguments in usage lines. -/
def argumentsPlace : String := "[args]..."

/-- The usage line that shows no switch by name. -/
def generalUsage (name : String) : String :=
  "Usage: " ++ name ++ " [OPTIONS] " ++ compilerPlace ++ " [-- " ++ argumentsPlace ++ "]"

/-- The usage line that repeats what was given. -/
def particularUsage (name : String) (given : List Switch) (hasArguments : Bool) : String :=
  " ".intercalate (["Usage: " ++ name] ++ given.map Switch.shown
    ++ [compilerPlace,
      if hasArguments then "-- " ++ argumentsPlace else "[-- " ++ argumentsPlace ++ "]"])

/-- The usage line after switches were given or the compiler was named. -/
def usageAfter (name : String) (given : List Switch) (namesCompiler : Bool) : String :=
  if given.isEmpty && !namesCompiler then generalUsage name else particularUsage name given false

/-- What help says of a switch. -/
def switchHelp : Switch → String
  | .toolchain =>
    "Look for the compiler in this directory instead of on PATH. Overrides DUALCC_TOOLCHAIN_DIR."
  | .archive =>
    "Archive a copy of every bitcode file in this directory, keyed by the hash of its path. "
      ++ "Overrides DUALCC_BITCODE_STORE."
  | .configuring => "Only run the real compiler, as during a configure script."
  | .log => "Set the log filter, e.g. 'debug'. Overrides DUALCC_LOG."
  | .help => "Print help"
  | .version => "Print version"

/-- How help shows a switch: by its letter, if it has one, and its name. -/
def switchHead (s : Switch) : String :=
  match s.letter? with
  | some c => "-" ++ c.toString ++ ", " ++ s.shown
  | none => "    " ++ s.shown

/-- An entry of help: its head and on a line of its own what it means. -/
def helpEntry (head meaning : String) : String :=
  "  " ++ head ++ "\n          " ++ meaning ++ "\n"

/-- The help text. -/
def help (name : String) : String :=
  "Compiler wrapper that builds native objects and LLVM bitcode side by side\n\n"
    ++ generalUsage name ++ "\n\nArguments:\n"
    ++ helpEntry compilerPlace
      "The compiler to wrap: cc, clang or gcc for C; c++, cxx, clang++ or g++ for C++."
    ++ helpEntry argumentsPlace "Arguments passed to the compiler, after '--'."
    ++ "\nOptions:\n"
    ++ String.join (Switch.all.map fun s => helpEntry (switchHead s) (switchHelp s))

/-- The version text. -/
def version : String := usualName ++ " " ++ versionNumber ++ "\n"

/-- An error message: what is wrong, the lines under it, and a usage line if there is one. -/
def errorText (wrong : String) (below : List String) (usage : Option String) : String :=
  "error: " ++ wrong ++ "\n" ++ String.join (below.map (· ++ "\n"))
    ++ (match usage with
      | some usage => "\n" ++ usage ++ "\n"
      | none => "")
    ++ "\nFor more information, try '--help'.\n"

/-- The advice to put an argument after the separator. -/
def separatorTip (argument : String) : String :=
  "  tip: to pass '" ++ argument ++ "' as a value, use '-- " ++ argument ++ "'"

/-- The advice that a switch with a similar name exists. -/
def similarTip (s : Switch) : String :=
  "  tip: a similar argument exists: '--" ++ s.name ++ "'"

/-- What is said of an argument that is not known. -/
def unexpected (argument : String) : String := "unexpected argument '" ++ argument ++ "' found"

/-- What is said of a switch without its value. -/
def valueless (s : Switch) : String :=
  "a value is required for '" ++ s.shown ++ "' but none was supplied"

end CommandLine

namespace Refusal

open CommandLine

/-- The whole text of a refusal, for a program started under a name; `plain` is how what the user wrote
is shown where the output is no terminal. -/
def text (plain : String → String) (name : String) : Refusal → String
  | help => CommandLine.help (plain name)
  | version => CommandLine.version
  | nothingGiven => CommandLine.help (plain name)
  | unknownSwitch switch similar given namesCompiler =>
    let shown := plain ("--" ++ switch)
    errorText (unexpected shown)
      ([""] ++ (similar.map similarTip).toList ++ [separatorTip shown])
      (some (usageAfter (plain name) given namesCompiler))
  | unknownLetter letter =>
    let shown := plain letter
    errorText (unexpected shown) ["", separatorTip shown] (some (generalUsage (plain name)))
  | furtherArgument word =>
    errorText (unexpected (plain word)) [] (some (generalUsage (plain name)))
  | noValue s => errorText (valueless s) [] none
  | unexpectedValue s value given =>
    errorText
      ("unexpected value '" ++ plain value ++ "' for '--" ++ s.name
        ++ "' found; no more were expected")
      [] (some (particularUsage (plain name) given false))
  | repeated s =>
    errorText ("the argument '" ++ s.shown ++ "' cannot be used multiple times") []
      (some (generalUsage (plain name)))
  | notText =>
    errorText "invalid UTF-8 was detected in one or more arguments" []
      (some (generalUsage (plain name)))
  | noCompiler given hasArguments =>
    errorText "the following required arguments were not provided:" ["  " ++ compilerPlace]
      (some (particularUsage (plain name) given hasArguments))

/-- Whether a refusal is an answer that was asked for. -/
def isAnswer : Refusal → Bool
  | help => true
  | version => true
  | _ => false

/-- The exit status of a refusal. -/
def exitCode (r : Refusal) : Nat := if r.isAnswer then 0 else 2

end Refusal

end TwinBuild
