import TwinBuild.Command
import TwinBuild.Settings

/-!
# Writing a payload into an object

The command that puts the content of a file into a named section of an object, in place. The
section names are fixed, so that tools find the references by name.
-/

namespace TwinBuild

/-- What writes payloads into objects: the object format with the tool for it. -/
inductive Embedder where
  /-- A section editor for ELF objects. -/
  | elf (objcopy : Path)
  /-- A linker that makes sections in Mach-O objects. -/
  | machO (ld : Path)
deriving DecidableEq, Repr

namespace Embedder

/-- The section of ELF objects that holds bitcode references. -/
def elfSection : Octets := Octets.ofString ".llvm_bc"

/-- The segment of Mach-O objects that holds the section of bitcode references. -/
def machOSegment : Octets := Octets.ofString "__WLLVM"

/-- The section of Mach-O objects that holds bitcode references. -/
def machOSection : Octets := Octets.ofString "__llvm_bc"

/-- The embedder that the settings choose. -/
def ofSettings (s : Settings) : Embedder :=
  match s.format with
  | .elf => .elf s.objcopy
  | .machO => .machO s.ld

/-- The command that writes a payload into an object. -/
def command (e : Embedder) (object payload : Path) : Command :=
  match e with
  | .elf objcopy =>
    { program := objcopy
      arguments := [Octets.ofString "--add-section", elfSection ++ Octets.ofString "=" ++ payload.text,
        object.text] }
  | .machO ld =>
    { program := ld
      arguments := [Octets.ofString "-r", Octets.ofString "-keep_private_externs", object.text,
        Octets.ofString "-sectcreate", machOSegment, machOSection, payload.text,
        Octets.ofString "-o", object.text] }

end Embedder

end TwinBuild
