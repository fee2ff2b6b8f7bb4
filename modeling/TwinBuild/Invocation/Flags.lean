import TwinBuild.Path

/-!
# Flags of a compiler driver

The tables by which the arguments of a compiler command are told apart, and the use that a single
argument has. Only what is needed to replay a command as object, bitcode and link steps is told
apart; a flag in no table is a flag of the compile step.
-/

namespace TwinBuild

namespace Flags

/-- The octets of the texts of a table. -/
def table (texts : List String) : List Octets := texts.map Octets.ofString

/-- Whether an argument begins with an entry of a table. -/
def beginsIn (beginnings : List Octets) (argument : Octets) : Bool :=
  beginnings.any fun b => b.isPrefixOf argument

/-- Standard input in the place of a file. -/
def standardInput : Octets := Octets.ofString "-"

/-- Stop before the link step. -/
def compileOnly : Octets := Octets.ofString "-c"

/-- Name the output. -/
def output : Octets := Octets.ofString "-o"

/-- Only preprocess. -/
def preprocess : Octets := Octets.ofString "-E"

/-- Only make assembly. -/
def assemble : Octets := Octets.ofString "-S"

/-- Make bitcode in the place of machine code. -/
def emitBitcode : Octets := Octets.ofString "-emit-llvm"

/-- Set the language of the inputs that follow. -/
def language : Octets := Octets.ofString "-x"

/-- The language that leaves the choice to the file extension again. -/
def noLanguage : Octets := Octets.ofString "none"

/-- The flags that only compute dependencies. -/
def dependencies : List Octets := table ["-M", "-MM"]

/-- The flags that only print information. -/
def print : List Octets := table ["--version", "-###", "--help", "-help", "-dumpversion",
  "-dumpfullversion", "-dumpmachine", "-dumpspecs"]

/-- What flags that only print information begin with. -/
def printBeginnings : List Octets := table ["-print-", "--print-"]

/-- The flags that would put bitcode into the objects of the native compile. -/
def forbidden : List Octets := table ["-flto", "-fembed-bitcode", "-fembed-bitcode-marker",
  "-Wl,-bitcode_bundle"]

/-- What further such flags begin with. -/
def forbiddenBeginnings : List Octets := table ["-flto=", "-fembed-bitcode="]

/-- The flags of dependency files that stand alone. The native compile alone writes these files. -/
def dependencyFile : List Octets := table ["-MD", "-MMD", "-MP", "-MG"]

/-- The flags of dependency files with an operand, joined or as the next argument. -/
def dependencyOperand : List Octets := table ["-MF", "-MT", "-MQ"]

/-- The flags of the compile step that take the next argument. -/
def compileOperand : List Octets := table ["-I", "-D", "-U", "-include", "-imacros", "-isystem",
  "-iquote", "-idirafter", "-iprefix", "-iwithprefix", "-isysroot", "-Xclang", "-mllvm",
  "-Xpreprocessor", "-Xassembler"]

/-- The flags of both steps that take the next argument. -/
def sharedOperand : List Octets := table ["-arch", "-target", "--sysroot"]

/-- The flags of the link step that take the next argument. -/
def linkOperand : List Octets := table ["-l", "-L", "-Xlinker", "-T", "-u", "-z", "-framework",
  "-rpath", "-install_name", "-compatibility_version", "-current_version",
  "-exported_symbols_list"]

/-- The flags of the link step that stand alone. -/
def link : List Octets := table ["-shared", "-static", "-rdynamic", "-pie", "-no-pie", "-nostdlib",
  "-nodefaultlibs", "-nostartfiles", "-s", "-dynamiclib", "-bundle", "-static-libgcc",
  "-static-libstdc++", "-object"]

/-- What further flags of the link step begin with. -/
def linkBeginnings : List Octets := table ["-Wl,", "-l", "-L", "-fuse-ld="]

/-- The flags of both steps that stand alone. -/
def shared : List Octets := table ["-pthread", "-fopenmp", "-m32", "-m64", "--coverage"]

/-- What further flags of both steps begin with. -/
def sharedBeginnings : List Octets := table ["--target=", "-fsanitize=", "-fopenmp=", "-stdlib=",
  "--sysroot="]

/-- The flags of the compile step that would read as an output joined to its flag. -/
def compileBeginnings : List Octets := table ["-objcmt-"]

/-- The file extensions of sources. -/
def sourceExtensions : List Octets := table ["c", "cc", "cp", "cxx", "cpp", "CPP", "c++", "C", "m",
  "mm", "M", "i", "ii", "mi", "mii", "bc", "ll"]

/-- The file extensions of assembly. -/
def assemblyExtensions : List Octets := table ["s", "S", "sx"]

/-- The languages that are assembly. -/
def assemblyLanguages : List Octets := table ["assembler", "assembler-with-cpp"]

/-- The flags that take the next argument, whatever it looks like. -/
def takesOperand : List Octets :=
  [output, language] ++ dependencyOperand ++ compileOperand ++ sharedOperand ++ linkOperand

end Flags

/-- What an argument is used as, together with its operand if it takes one. -/
inductive Use where
  | standardInput
  | source
  | assembly
  | linkInput
  | compileOnly
  | output
  | preprocess
  | assemble
  | emitBitcode
  | dependencies
  | print
  | forbidden
  | dependencyFile
  | compile
  | shared
  | link
deriving DecidableEq, Repr

namespace Use

/-- The use of an input file: by the language in force, else by its extension. -/
def ofInput (language : Option Octets) (argument : Octets) : Use :=
  match language with
  | some name => if Flags.assemblyLanguages.contains name then .assembly else .source
  | none =>
    match (Path.mk argument).extension with
    | none => .linkInput
    | some extension =>
      if Flags.sourceExtensions.contains extension then .source
      else if Flags.assemblyExtensions.contains extension then .assembly
      else .linkInput

/-- The use of a flag. The tables overlap, and the first that applies decides. -/
def ofFlag (argument : Octets) : Use :=
  if argument = Flags.compileOnly then .compileOnly
  else if argument = Flags.output then .output
  else if argument = Flags.preprocess then .preprocess
  else if argument = Flags.assemble then .assemble
  else if argument = Flags.emitBitcode then .emitBitcode
  else if Flags.dependencies.contains argument then .dependencies
  else if Flags.print.contains argument || Flags.beginsIn Flags.printBeginnings argument then .print
  else if Flags.forbidden.contains argument
    || Flags.beginsIn Flags.forbiddenBeginnings argument then .forbidden
  else if Flags.dependencyFile.contains argument
    || Flags.beginsIn Flags.dependencyOperand argument then .dependencyFile
  else if argument = Flags.language then .compile
  else if Flags.compileOperand.contains argument then .compile
  else if Flags.sharedOperand.contains argument then .shared
  else if Flags.linkOperand.contains argument then .link
  else if Flags.link.contains argument || Flags.beginsIn Flags.linkBeginnings argument then .link
  else if Flags.shared.contains argument
    || Flags.beginsIn Flags.sharedBeginnings argument then .shared
  else if Flags.beginsIn Flags.compileBeginnings argument then .compile
  else if Flags.output.isPrefixOf argument then .output
  else .compile

/-- The use of an argument where the given language is in force. -/
def ofArgument (language : Option Octets) (argument : Octets) : Use :=
  if argument = Flags.standardInput then .standardInput
  else if argument.head? = some Octets.hyphen then ofFlag argument
  else ofInput language argument

end Use

end TwinBuild
