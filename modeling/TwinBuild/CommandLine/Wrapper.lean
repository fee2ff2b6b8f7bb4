import TwinBuild.Path

/-!
# Wrapper names

Under a name that ends in a hyphen and the name of a compiler, the program is that compiler: it
takes no options of its own, and all arguments are the compiler's.
-/

namespace TwinBuild.Wrapper

/-- The compilers that a wrapper's name can end in, longer names before those they end in. -/
def compilers : List String := ["clang++", "clang", "g++", "gcc", "c++", "cc"]

/-- What a wrapper's name ends in. -/
def ending (compiler : String) : Octets := Octets.hyphen :: Octets.ofString compiler

/-- The compiler that the name of the program stands for; a bare ending stands for none. -/
def compiler? (program : Octets) : Option String :=
  match (Path.mk program).fileName with
  | none => none
  | some name =>
    if Utf8.isValid name then
      compilers.find? fun c => (ending c).isSuffixOf name && (ending c).length < name.length
    else none

end TwinBuild.Wrapper
