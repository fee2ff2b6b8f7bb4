import TwinBuild.Text.Utf8
import TwinBuild.Text.Visible
import TwinBuild.Text.Extending
import TwinBuild.Text.Ignorable

/-!
# Quoted text

Messages show paths and other octet strings between double quotes, so that no octet is lost to
the reader: characters without a visible form of their own are escaped by their number, and the
octets of a broken run by their two hexadecimal digits.
-/

namespace TwinBuild.Quoted

/-- The number of a character in lower-case hexadecimal digits, without leading zeros. -/
def hexDigits (n : Nat) : List Char := Nat.toDigits 16 n

/-- A character as quoted text shows it. -/
def quoteChar (c : Char) : List Char :=
  if c = '\x00' then ['\\', '0']
  else if c = '\t' then ['\\', 't']
  else if c = '\r' then ['\\', 'r']
  else if c = '\n' then ['\\', 'n']
  else if c = '"' || c = '\\' then ['\\', c]
  else if Text.isExtending c || Text.isIgnorable c || !Text.isVisible c then
    ['\\', 'u', '\x7b'] ++ hexDigits c.toNat ++ ['\x7d']
  else [c]

/-- An octet that spells no character, as quoted text shows it. -/
def quoteOctet (b : UInt8) : List Char :=
  ['\\', 'x', (Octets.hexDigit (b.toNat / 16)).toUpper, (Octets.hexDigit b.toNat).toUpper]

/-- A piece of an octet string, as quoted text shows it. -/
def quotePiece : Utf8.Piece → List Char
  | .scalar c _ => quoteChar c
  | .broken octets => octets.flatMap quoteOctet

/-- An octet string in double quotes. -/
def quote (s : Octets) : String :=
  String.ofList (['"'] ++ (Utf8.pieces s).flatMap quotePiece ++ ['"'])

end TwinBuild.Quoted
