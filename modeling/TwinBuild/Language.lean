import TwinBuild.Search

/-!
# The compilers that can be wrapped

The names that build systems give a compiler say its language, and the language says where the
real compiler is looked for: a variable of its own first, then the toolchain directory or the
search list.
-/

namespace TwinBuild

/-- The language of a wrapped compiler. -/
inductive Language where
  | c
  | cxx
deriving DecidableEq, Repr

namespace Language

/-- The names of C compilers. -/
def cNames : List String := ["cc", "clang", "gcc"]

/-- The names of C++ compilers. -/
def cxxNames : List String := ["c++", "cxx", "clang++", "g++"]

/-- The language of a compiler by its name. -/
def ofCompilerName? (name : String) : Option Language :=
  if cNames.contains name then some .c
  else if cxxNames.contains name then some .cxx
  else none

/-- The name of the executable that is wrapped if no other is chosen. -/
def usualExecutable : Language → String
  | c => "clang"
  | cxx => "clang++"

/-- The variable that holds the path of the compiler and goes before every other choice. -/
def pathVariable : Language → String
  | c => "DUALCC_CC_PATH"
  | cxx => "DUALCC_CXX_PATH"

/-- What messages call a compiler of the language. -/
def compilerText : Language → String
  | c => "C compiler"
  | cxx => "C++ compiler"

/-- How the compiler is looked for: a directory holds it, if one is chosen. -/
def strategies (l : Language) (directory : Option Path) (executable : Option String) :
    List Strategy :=
  let name := Octets.ofString (executable.getD l.usualExecutable)
  [.environment (Octets.ofString l.pathVariable),
    .name (match directory with
      | some dir => (dir.join ⟨name⟩).text
      | none => name)]

/-- Look for the compiler of a language. -/
def findCompiler (l : Language) (directory : Option Path) (executable : Option String) :
    SessionM (Except String Path) :=
  Search.find l.usualExecutable (l.strategies directory executable)

end Language

end TwinBuild
