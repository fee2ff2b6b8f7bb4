import TwinBuild.Invocation

/-!
# Artifacts

Where the object and the bitcode of a source go. A single source compiled to a named output keeps
that name. Otherwise visible objects go to the current directory, as the compiler itself would put
them, and hidden ones to a scratch directory under a name with the number of the source, so that
no two sources share an object.
-/

namespace TwinBuild

/-- Whether objects are what the command asked for or inputs of a later link. -/
inductive Naming where
  | visible
  | hidden (scratch : Path)
deriving DecidableEq, Repr

/-- The object and the bitcode file of a source. -/
structure Artifact where
  object : Path
  bitcode : Path
deriving DecidableEq, Repr

/-- A source number that an invocation does not have. -/
structure NoSuchSource where
  count : Nat
  index : Nat
deriving DecidableEq, Repr

/-- What a message says of a source number that does not exist. -/
def NoSuchSource.text (e : NoSuchSource) : String :=
  "index out of bounds: the len is " ++ toString e.count ++ " but the index is "
    ++ toString e.index

/-- The extension of bitcode files. -/
def bitcodeExtension : Octets := Octets.ofString "bc"

/-- Whether a path names a bitcode file. -/
def Path.isBitcode (p : Path) : Bool := p.extension == some bitcodeExtension

/-- The extensions of the files that can carry a reference to bitcode. -/
def objectExtensions : List Octets := Flags.table ["o", "lo", "os", "So", "po"]

/-- Whether a path names an object file. -/
def Path.isObject (p : Path) : Bool :=
  match p.extension with
  | some extension => objectExtensions.contains extension
  | none => false

namespace Artifact

/-- A file name that begins with a full stop. -/
def dotted (parts : List Octets) : Octets := Octets.dot :: parts.flatten

/-- The bitcode file beside an object: its name between a full stop and the bitcode extension. -/
def bitcodeBeside (object : Path) : Path :=
  object.withFileName (dotted [object.fileName.getD [], Octets.ofString ".bc"])

/-- The file stem of a source, or its whole text if it has no file name. -/
def stem (source : Path) : Octets := source.fileStem.getD source.text

/-- The artifact whose object was asked for by name. -/
def named (object : Path) : Artifact := ⟨object, bitcodeBeside object⟩

/-- The artifact of a source by its number and name. -/
def ofSource (naming : Naming) (index : Nat) (source : Path) : Artifact :=
  match naming with
  | .visible => named ⟨stem source ++ Octets.ofString ".o"⟩
  | .hidden scratch =>
    { object := scratch.join
        ⟨dotted [stem source, Octets.ofString ".", Octets.ofString (toString index),
          Octets.ofString ".o"]⟩
      bitcode := source.withFileName (dotted [stem source, Octets.ofString ".o.bc"]) }

end Artifact

namespace Invocation

/-- The object that a compile of a single source was told to make. -/
def namedObject? (i : Invocation) : Option Path :=
  if i.sources.length = 1 && i.compilesOnly then i.output else none

/-- The artifact of the source with a number and name. -/
def artifactOf (i : Invocation) (naming : Naming) (index : Nat) (source : Path) : Artifact :=
  match i.namedObject? with
  | some object => Artifact.named object
  | none => Artifact.ofSource naming index source

/-- The artifact of the source with a number. A named object is answered for every number. -/
def artifact (i : Invocation) (naming : Naming) (index : Nat) : Except NoSuchSource Artifact :=
  match i.namedObject?, i.sources[index]? with
  | some object, _ => .ok (Artifact.named object)
  | none, some source => .ok (Artifact.ofSource naming index source)
  | none, none => .error ⟨i.sources.length, index⟩

end Invocation

end TwinBuild
