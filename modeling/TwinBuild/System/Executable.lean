import TwinBuild.System.Host

/-!
# Finding executables

An absolute name is checked as it is. A name of several components is taken under the current
directory, its components joined anew. Any other name is looked for in the directories of the
search list, of which relative ones are taken under the current directory; a tilde at the beginning
of one stands for the user's own directory.
-/

namespace TwinBuild

/-- Why no executable was found. -/
inductive LookupFault where
  /-- The environment has no search list. -/
  | noSearchList
  /-- No candidate is a file that may be started. -/
  | notFound
deriving DecidableEq, Repr

/-- What a message says of a failed look-up. -/
def LookupFault.text : LookupFault → String
  | .noSearchList => "no path to search and provided name is not an absolute path"
  | .notFound => "cannot find binary path"

/-- The text of a component. -/
def Component.text : Component → Octets
  | .root => [Octets.slash]
  | .current => Path.currentName
  | .parent => Path.parentName
  | .normal name => name

namespace Path

/-- A relative path appended to a place, component by component and without a leading full stop. An
absolute path stays as it is. -/
def under (place : Place) (p : Path) : Path :=
  if p.isAbsolute then p
  else (p.components.dropWhile (· == .current)).foldl
    (fun q c => q.join ⟨c.text⟩) place.path

/-- Whether a path has more than one component. -/
def isCompound (p : Path) : Bool := 1 < p.components.length

end Path

namespace Host

/-- The component that stands for the user's own directory. -/
def homeSign : Octets := Octets.ofString "~"

/-- The variable that holds the search list. -/
def searchVariable : Octets := Octets.ofString "PATH"

/-- The variable that names the user's own directory. -/
def homeVariable : Octets := Octets.ofString "HOME"

/-- The user's own directory, as far as it is named in text. -/
def home (h : Host) : Path := ⟨((h.valueOf homeVariable).filter Utf8.isValid).getD []⟩

/-- A directory of the search list, with the sign for the user's own directory expanded where it
comes first. -/
def expanded (h : Host) (dir : Path) : Path :=
  match dir.components with
  | .normal first :: rest =>
    if first = homeSign then rest.foldl (fun p c => p.join ⟨c.text⟩) h.home else dir
  | _ => dir

/-- A path taken under the current directory, if there is one. -/
def underHere (h : Host) (p : Path) : Path :=
  match h.currentPlace with
  | .ok place => p.under place
  | .error _ => p

/-- The paths that may be meant by the name of an executable, in the order of preference. -/
def candidates (h : Host) (name : Path) : Except LookupFault (List Path) :=
  if name.isAbsolute then .ok [name]
  else if name.isCompound && h.currentPlace.isOk then .ok [h.underHere name]
  else match h.valueOf searchVariable with
    | none => .error .noSearchList
    | some list =>
      .ok ((Separated.split Octets.colon list).map fun dir =>
        (h.underHere (h.expanded ⟨dir⟩)).join name)

/-- The executable that a name means. -/
def findExecutable (h : Host) (name : Path) : Except LookupFault Path := do
  match (← h.candidates name).find? h.isExecutable with
  | some p => pure p
  | none => throw .notFound

end Host

end TwinBuild
