/-!
# Octet strings

Arguments, environment values and path texts are sequences of octets that need not decode as
UTF-8. This module holds their type and the few operations the rest of the library needs: the
octets of a text, the octets with a meaning in paths and flags, the octet-wise order, hexadecimal
digits.
-/

namespace TwinBuild

/-- A sequence of octets, with no promise about its encoding. -/
abbrev Octets := List UInt8

namespace Octets

/-- The octets of a text in UTF-8. -/
def ofString (s : String) : Octets := s.toByteArray.data.toList

/-- The slash that separates the components of a path. -/
def slash : UInt8 := 47

/-- The full stop that begins a file extension. -/
def dot : UInt8 := 46

/-- The colon that separates the directories of a search list. -/
def colon : UInt8 := 58

/-- The hyphen that begins a flag. -/
def hyphen : UInt8 := 45

/-- Octet-wise order: a proper beginning comes before what extends it. -/
def le : Octets → Octets → Bool
  | [], _ => true
  | _ :: _, [] => false
  | a :: as, b :: bs => a < b || (a == b && le as bs)

/-- One hexadecimal digit in lower case. -/
def hexDigit (n : Nat) : Char := (Nat.digitChar (n % 16))

/-- Two lower-case hexadecimal digits for every octet. -/
def hex (bytes : Octets) : String :=
  String.ofList (bytes.flatMap fun b => [hexDigit (b.toNat / 16), hexDigit b.toNat])

end Octets

end TwinBuild
