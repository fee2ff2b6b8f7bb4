import TwinBuild.Path
import TwinBuild.System.Fault

/-!
# One spelling for every place

A place in the file tree is the list of names that leads to it from the root. The components of a
path are resolved from left to right: a name goes down, the directory above goes up and stays at
the root, and the root starts over. Written out again, a place has exactly one spelling.

Main statement: `components_path`, the spelling of a place has the root and its names as
components.
-/

namespace TwinBuild

/-- A place in the file tree: the names that lead to it from the root. -/
abbrev Place := List Octets

namespace Place

/-- One step from a place. -/
def follow (here : Place) : Component → Place
  | .root => []
  | .current => here
  | .parent => here.dropLast
  | .normal name => here ++ [name]

/-- The place that a path names when it is read from another place; nothing is looked up. -/
def resolve (start : Place) (p : Path) : Place := p.components.foldl follow start

/-- The one spelling of a place. -/
def path (place : Place) : Path := ⟨Octets.slash :: Separated.join [Octets.slash] place⟩

/-- Whether an octet string can name one step down: it is not empty, holds no slash, and is neither a
full stop nor two. -/
def IsName (name : Octets) : Prop :=
  name ≠ [] ∧ Octets.slash ∉ name ∧ name ≠ Path.currentName ∧ name ≠ Path.parentName

theorem components_path {place : Place} (h : ∀ name ∈ place, IsName name) :
    place.path.components = .root :: place.map .normal := by
  have hbody : place.path.body = Separated.join [Octets.slash] place := by
    simp [Path.body, Path.anchor, Path.isAbsolute, path]
  have habs : place.path.isAbsolute = true := by simp [Path.isAbsolute, path]
  have hsteps : (Separated.split Octets.slash place.path.body).filter Path.isStep = place := by
    rw [hbody]
    cases place with
    | nil => rfl
    | cons name rest =>
      rw [Separated.split_join Octets.slash (name :: rest) (by simp) fun part hp => (h part hp).2.1]
      exact List.filter_eq_self.2 fun part hp => by simp [Path.isStep, (h part hp).1, (h part hp).2.2.1]
  have hmap : place.map Path.stepOf = place.map .normal :=
    List.map_congr_left fun part hp => by simp [Path.stepOf, (h part hp).2.2.2]
  unfold Path.components
  rw [hsteps, hmap, habs]
  rfl

end Place

namespace Path

/-- The spelling of the place that a path names under the current directory, which an absolute path
does not need. The empty path names no place. -/
def absoluteClean (cwd : Except Fault Place) (p : Path) : Except Fault Path :=
  if p.text.isEmpty then .error .emptyPath
  else if p.isAbsolute then .ok (Place.resolve [] p).path
  else cwd.map fun place => (Place.resolve place p).path

end Path

end TwinBuild
