import TwinBuild.Path
import TwinBuild.Text.Blank

/-!
# Settings

What the environment and the command line choose for a run. A variable set to nothing counts as
unset; the command line goes before the environment.
-/

namespace TwinBuild

/-- How references to bitcode are written into object files. -/
inductive ObjectFormat where
  | elf
  | machO
deriving DecidableEq, Repr

/-- The choices of a run. -/
structure Settings where
  /-- The directory in which the compilers must be, if not on the search list. -/
  toolchain : Option Path := none
  /-- The name of the C compiler's executable, if not the usual one. -/
  cName : Option String := none
  /-- The name of the C++ compiler's executable, if not the usual one. -/
  cxxName : Option String := none
  /-- The directory of the bitcode archive, if there is one. -/
  archive : Option Path := none
  /-- Whether every invocation is run as it is. -/
  configuring : Bool := false
  format : ObjectFormat := .elf
  objcopy : Path := .ofString "objcopy"
  ld : Path := .ofString "ld"
  /-- The flags that bitcode builds get beyond those of the command line. -/
  bitcodeFlags : List Octets := []
deriving DecidableEq, Repr

/-- What the command line may choose. -/
structure Overrides where
  toolchain : Option Path := none
  archive : Option Path := none
  configuring : Bool := false
deriving DecidableEq, Repr

namespace Settings

/-- The variable with the toolchain directory. -/
def toolchainVariable : Octets := Octets.ofString "DUALCC_TOOLCHAIN_DIR"

/-- The variable with the name of the C compiler. -/
def cNameVariable : Octets := Octets.ofString "DUALCC_CC_NAME"

/-- The variable with the name of the C++ compiler. -/
def cxxNameVariable : Octets := Octets.ofString "DUALCC_CXX_NAME"

/-- The variable with the directory of the archive. -/
def archiveVariable : Octets := Octets.ofString "DUALCC_BITCODE_STORE"

/-- The variable that says every invocation is run as it is. -/
def configuringVariable : Octets := Octets.ofString "DUALCC_CONFIGURE_ONLY"

/-- The variable with the section editor for ELF objects. -/
def objcopyVariable : Octets := Octets.ofString "DUALCC_OBJCOPY"

/-- The variable with the linker for Mach-O objects. -/
def ldVariable : Octets := Octets.ofString "DUALCC_LD"

/-- The variable with further flags for bitcode builds. -/
def bitcodeFlagsVariable : Octets := Octets.ofString "DUALCC_BITCODE_FLAGS"

/-- The flags that a text lists between blanks. -/
def flagsOfText (text : Octets) : List Octets :=
  (Text.words (Utf8.lossy text).toList).map fun word => Octets.ofString (String.ofList word)

/-- The settings that the variables choose. -/
def ofLookup (lookup : Octets → Option Octets) : Settings :=
  let chosen := fun name => (lookup name).filter fun value => !value.isEmpty
  let usual : Settings := {}
  { toolchain := (chosen toolchainVariable).map Path.mk
    cName := (chosen cNameVariable).map Utf8.lossy
    cxxName := (chosen cxxNameVariable).map Utf8.lossy
    archive := (chosen archiveVariable).map Path.mk
    configuring := (chosen configuringVariable).isSome
    format := usual.format
    objcopy := ((chosen objcopyVariable).map Path.mk).getD usual.objcopy
    ld := ((chosen ldVariable).map Path.mk).getD usual.ld
    bitcodeFlags := ((chosen bitcodeFlagsVariable).map flagsOfText).getD usual.bitcodeFlags }

/-- The settings with the choices of the command line put before them. -/
def override (s : Settings) (o : Overrides) : Settings :=
  { s with
    toolchain := o.toolchain <|> s.toolchain
    archive := o.archive <|> s.archive
    configuring := s.configuring || o.configuring }

end Settings

end TwinBuild
