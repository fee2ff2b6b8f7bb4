import TwinBuild.Log
import TwinBuild.Octets
import TwinBuild.Text.Pattern.Meaning
import TwinBuild.Text.Separated

/-!
# Log filters

A filter text is a list of directives between commas, perhaps followed by a slash and a pattern that
must occur in records. A directive lets the records of some parts of the program through down to a
level: `info` is for all parts, `dualcc_driver=debug` for those whose name begins so, and a name
alone lets everything through. Of the directives for a part the one with the longest name decides.

Reading a further text goes on from the directives already there: a directive with a name that is
there takes its place.
-/

namespace TwinBuild.Log

namespace Level

/-- The levels, the gravest first. -/
def all : List Level := [error, warn, info, debug, trace]

/-- Whether a record of this level is let through down to the level `least`. -/
def reaches (level least : Level) : Bool := level.rank ≤ least.rank

end Level

/-- What a directive allows: nothing, or all down to a level. -/
inductive Ceiling where
  | off
  | down (least : Level)
deriving DecidableEq, Repr

namespace Ceiling

/-- Whether records of a level are allowed. -/
def allows : Ceiling → Level → Bool
  | off, _ => false
  | down least, level => level.reaches least

/-- The ceiling that allows all records. -/
def everything : Ceiling := down .trace

/-- The ceiling where no directive has been given. -/
def usual : Ceiling := down .error

/-- The name of a ceiling. -/
def name : Ceiling → String
  | off => "off"
  | down least => least.name

/-- The ceiling of a name, in which large and small letters are alike. -/
def ofName? (text : List Char) : Option Ceiling :=
  (off :: Level.all.map down).find? fun c => c.name.toList == text.map Char.toLower

end Ceiling

/-- What is let through of some parts of the program. -/
structure Directive where
  /-- The beginning of the names of the parts; `none` for all parts. -/
  target : Option (List Char)
  ceiling : Ceiling
deriving DecidableEq, Repr

namespace Directive

/-- The length of a directive's name in octets, by which the more specific one is known. -/
def weight (d : Directive) : Nat := (d.target.map fun t => (String.ofList t).utf8ByteSize).getD 0

/-- Whether a directive is for the part of a name. -/
def covers (d : Directive) (part : List Char) : Bool :=
  match d.target with
  | none => true
  | some t => t.isPrefixOf part

end Directive

/-- Why a part of a filter text is passed over. -/
inductive FilterFault where
  | tooManySlashes (text : List Char)
  | unknownLevel (text : List Char)
  | malformed (text : List Char)
  | badPattern (text : List Char) (e : Text.Pattern.PatternError)
deriving DecidableEq, Repr

/-- What the warning about a fault says. -/
def FilterFault.text : FilterFault → String
  | tooManySlashes text =>
    "warning: invalid logging spec '" ++ String.ofList text ++ "' (too many '/'s), ignoring it"
  | unknownLevel text => "warning: invalid logging spec '" ++ String.ofList text ++ "', ignoring it"
  | malformed text => "warning: invalid logging spec '" ++ String.ofList text ++ "', ignoring it"
  | badPattern text e => "warning: invalid regex filter - " ++ e.text text ++ ", ignoring it"

namespace Directive

/-- Read a directive. -/
def read (text : List Char) : Except FilterFault Directive :=
  match Separated.split '=' text with
  | [name] =>
    match Ceiling.ofName? name with
    | some ceiling => .ok ⟨none, ceiling⟩
    | none => .ok ⟨some name, .everything⟩
  | [name, level] =>
    if (Text.trim level).isEmpty then .ok ⟨some name, .everything⟩
    else match Ceiling.ofName? (Text.trim level) with
      | some ceiling => .ok ⟨some name, ceiling⟩
      | none => .error (.unknownLevel (Text.trim level))
  | _ => .error (.malformed text)

/-- The texts of the directives between commas; empty ones are passed over. -/
def texts (list : List Char) : List (List Char) :=
  ((Separated.split ',' list).map Text.trim).filter (· != [])

end Directive

/-- Which records are shown. -/
structure Filter where
  directives : List Directive := []
  /-- A pattern that must occur in records. -/
  required : Option Text.Pattern := none
deriving DecidableEq, Repr

namespace Filter

/-- Add a directive, in the place of the one with the same name if there is one. -/
def add (ds : List Directive) (d : Directive) : List Directive :=
  match ds with
  | [] => [d]
  | e :: rest => if e.target = d.target then d :: rest else e :: add rest d

/-- The fault that a reading came to. -/
def faultOf? {α : Type} : Except FilterFault α → Option FilterFault
  | .ok _ => none
  | .error fault => some fault

/-- Read the pattern that may follow the directives. -/
def readPattern (text : List Char) : Except FilterFault Text.Pattern :=
  (Text.Pattern.ofText text).mapError (.badPattern text)

/-- Go on with a filter text: the filter, and the faults of the text in order. -/
def extend (f : Filter) (text : List Char) : Filter × List FilterFault :=
  match Separated.split '/' text with
  | [] => (f, [])
  | list :: rest =>
    if rest.length > 1 then ({ f with required := none }, [.tooManySlashes text])
    else
      let readings := (Directive.texts list).map Directive.read
      let patterns := rest.map readPattern
      ({ directives := (readings.filterMap Except.toOption).foldl add f.directives
         required := (patterns.filterMap Except.toOption).head? },
        readings.filterMap faultOf? ++ patterns.filterMap faultOf?)

/-- The directives that decide, the most general first; without any, errors are shown. -/
def effective (f : Filter) : List Directive :=
  if f.directives.isEmpty then [⟨none, .usual⟩]
  else f.directives.mergeSort fun a b => a.weight ≤ b.weight

/-- What is allowed of the part of a name: what the most specific of its directives allows. -/
def ceilingOf (f : Filter) (part : List Char) : Ceiling :=
  match f.effective.reverse.find? (·.covers part) with
  | some d => d.ceiling
  | none => .off

/-- Whether a text is let through that the part of a name wrote at a level. -/
def passes (f : Filter) (part : List Char) (level : Level) (text : List Char) : Bool :=
  (f.ceilingOf part).allows level && f.required.all (·.occursIn text)

/-- Whether a record is shown. -/
def shows (f : Filter) (r : Record) : Bool := f.passes r.part.name.toList r.level r.text.toList

/-- The variable with the filter text. -/
def variableName : Octets := Octets.ofString "DUALCC_LOG"

/-- The filter text where the variable has none. -/
def usualText : String := "warn"

/-- The filter of a run: the variable's text, and the command line's text added to it. -/
def ofTexts (fromVariable fromCommandLine : Option String) : Filter × List FilterFault :=
  let first := extend {} (fromVariable.getD usualText).toList
  match fromCommandLine with
  | none => first
  | some text =>
    let second := first.1.extend text.toList
    (second.1, first.2 ++ second.2)

end Filter

end TwinBuild.Log
