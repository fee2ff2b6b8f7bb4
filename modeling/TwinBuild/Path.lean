import TwinBuild.Text.Utf8
import TwinBuild.Text.Quoted
import TwinBuild.Text.Separated

/-!
# Paths

A path is an octet string read as components. Empty components and full stops vanish, except a
full stop at the very beginning of a relative path, so `a//b/.` has the components `a` and `b`.
The text is kept as given: operations cut it and append to it, and never clean it.
-/

namespace TwinBuild

/-- A path, kept exactly as it was given. -/
structure Path where
  text : Octets
deriving DecidableEq, Repr

/-- One step of a path. -/
inductive Component where
  | root
  | current
  | parent
  | normal (name : Octets)
deriving DecidableEq, Repr

namespace Path

open Octets (slash dot)

/-- The path of a text. -/
def ofString (s : String) : Path := ⟨Octets.ofString s⟩

/-- The path as readable text, with a replacement character for each broken run. -/
def lossy (p : Path) : String := Utf8.lossy p.text

/-- The path in double quotes, as messages show it. -/
def quoted (p : Path) : String := Quoted.quote p.text

/-- The component that means the directory itself. -/
def currentName : Octets := [dot]

/-- The component that means the directory above. -/
def parentName : Octets := [dot, dot]

/-- Whether a path begins at the root. -/
def isAbsolute (p : Path) : Bool := p.text.head? == some slash

/-- Whether a path begins with a full stop that counts as a component. -/
def startsAtCurrent (p : Path) : Bool :=
  match p.text with
  | [b] => b == dot
  | b :: c :: _ => b == dot && c == slash
  | [] => false

/-- The part of the text that is taken by the root or by a leading full stop. -/
def anchor (p : Path) : Octets :=
  if p.isAbsolute then [slash] else if p.startsAtCurrent then [dot] else []

/-- The text after the root or the leading full stop. -/
def body (p : Path) : Octets := p.text.drop p.anchor.length

/-- Whether a piece between slashes is a component. -/
def isStep (piece : Octets) : Bool := piece != [] && piece != currentName

/-- The component that a piece between slashes means. -/
def stepOf (piece : Octets) : Component := if piece = parentName then .parent else .normal piece

/-- The components of a path. -/
def components (p : Path) : List Component :=
  (if p.isAbsolute then [.root] else if p.startsAtCurrent then [.current] else [])
    ++ ((Separated.split slash p.body).filter isStep).map stepOf

/-- The last component, if it is an ordinary name. -/
def fileName (p : Path) : Option Octets :=
  match p.components.getLast? with
  | some (.normal name) => some name
  | _ => none

/-- A file name cut at its last full stop. A name whose only full stop comes first, and the name of
the directory above, are not cut. -/
def splitName (name : Octets) : Octets × Option Octets :=
  if name = parentName then (name, none)
  else
    let after := (name.reverse.takeWhile (· ≠ dot)).reverse
    let before := name.take (name.length - after.length - 1)
    if after.length = name.length || before = [] then (name, none) else (before, some after)

/-- The file name without its extension. -/
def fileStem (p : Path) : Option Octets := p.fileName.map fun name => (splitName name).1

/-- What follows the last full stop of the file name. -/
def extension (p : Path) : Option Octets := p.fileName.bind fun name => (splitName name).2

/-- The pieces of a body up to its last component, or `none` if it has no component. -/
def dropLastStep (pieces : List Octets) : Option (List Octets) :=
  match pieces.reverse.dropWhile (fun piece => !isStep piece) with
  | [] => none
  | _ :: before => some (before.dropWhile fun piece => !isStep piece).reverse

/-- The path above the last component: its text up to there, without the slashes and full stops
that end it. -/
def parent? (p : Path) : Option Path :=
  match dropLastStep (Separated.split slash p.body) with
  | some before => some ⟨p.anchor ++ Separated.join [slash] before⟩
  | none => if p.isAbsolute then none else if p.startsAtCurrent then some ⟨[]⟩ else none

/-- Go on from a path: an absolute path replaces it, any other is appended after a slash, which is
not doubled and not put after the empty path. -/
def join (p q : Path) : Path :=
  if q.isAbsolute then q
  else if p.text.isEmpty || p.text.getLast? == some slash then ⟨p.text ++ q.text⟩
  else ⟨p.text ++ [slash] ++ q.text⟩

/-- Put another last component in the place of an ordinary one, or append one. -/
def withFileName (p : Path) (name : Octets) : Path :=
  if p.fileName.isSome then (p.parent?.getD p).join ⟨name⟩ else p.join ⟨name⟩

end Path

end TwinBuild
