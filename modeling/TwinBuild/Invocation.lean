import TwinBuild.Invocation.Segment

/-!
# Invocations

A compiler command line, told apart into what is needed to replay it: the sources, the flags of
the compile and link steps, the output, and the modes in which no bitcode is made.
-/

namespace TwinBuild

/-- A compiler command line, told apart. -/
structure Invocation where
  /-- The arguments as they were given, without the program. -/
  arguments : List Octets := []
  /-- The source files, in order. -/
  sources : List Path := []
  compileArguments : List Octets := []
  linkArguments : List Octets := []
  output : Option Path := none
  /-- The flags taken away before the native compile. -/
  forbidden : List Octets := []
  compilesOnly : Bool := false
  printsOnly : Bool := false
  preprocessesOnly : Bool := false
  assemblesOnly : Bool := false
  emitsBitcode : Bool := false
  dependenciesOnly : Bool := false
  hasAssembly : Bool := false
  readsStandardInput : Bool := false
deriving DecidableEq, Repr

/-- Why an invocation is run as it is, without bitcode. -/
inductive Bypass where
  | configuring
  | printing
  | preprocessing
  | assembling
  | emittingBitcode
  | computingDependencies
  | assemblyInput
  | standardInput
  | noSources
deriving DecidableEq, Repr

/-- What log records say of a bypass. -/
def Bypass.text : Bypass → String
  | configuring => "configure-only mode is enabled"
  | printing => "the command only prints information"
  | preprocessing => "the command only preprocesses"
  | assembling => "the command only emits assembly"
  | emittingBitcode => "the command already emits bitcode"
  | computingDependencies => "the command only computes dependencies"
  | assemblyInput => "an input is an assembly file"
  | standardInput => "an input is read from stdin"
  | noSources => "there are no source files"

namespace Invocation

/-- The invocation that used segments amount to. -/
def ofUsedSegments (arguments : List Octets) (segments : List UsedSegment) : Invocation where
  arguments := arguments
  sources := segments.filterMap UsedSegment.source?
  compileArguments := segments.flatMap UsedSegment.compileWords
  linkArguments := segments.flatMap UsedSegment.linkWords
  output := (segments.filterMap UsedSegment.output?).getLast?.join
  forbidden := segments.filterMap UsedSegment.forbidden?
  compilesOnly := segments.any (·.use == .compileOnly)
  printsOnly := segments.any (·.use == .print)
  preprocessesOnly := segments.any (·.use == .preprocess)
  assemblesOnly := segments.any (·.use == .assemble)
  emitsBitcode := segments.any (·.use == .emitBitcode)
  dependenciesOnly := segments.any (·.use == .dependencies)
  hasAssembly := segments.any (·.use == .assembly)
  readsStandardInput := segments.any (·.use == .standardInput)

/-- The invocation of a command line. -/
def ofArguments (arguments : List Octets) : Invocation :=
  ofUsedSegments arguments (UsedSegment.ofArguments arguments)

/-- Why the invocation is run as it is, without bitcode, if it is. -/
def bypass? (i : Invocation) (configuring : Bool) : Option Bypass :=
  if configuring then some .configuring
  else if i.printsOnly then some .printing
  else if i.preprocessesOnly then some .preprocessing
  else if i.assemblesOnly then some .assembling
  else if i.emitsBitcode then some .emittingBitcode
  else if i.dependenciesOnly && !i.compilesOnly then some .computingDependencies
  else if i.hasAssembly then some .assemblyInput
  else if i.readsStandardInput then some .standardInput
  else if i.sources.isEmpty then some .noSources
  else none

/-- The arguments of the native compile: as given, less those equal to a forbidden flag. -/
def nativeArguments (i : Invocation) : List Octets :=
  i.arguments.filter fun a => !i.forbidden.contains a

end Invocation

end TwinBuild
