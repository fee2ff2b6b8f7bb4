import TwinBuild.Path
import TwinBuild.Text.Lines
import TwinBuild.Text.Fill

/-!
# Error reports

What the user sees when nothing could be run: a title between dashes, the path concerned, and the
message, filled to the width of a terminal.
-/

namespace TwinBuild

/-- An error as the user sees it. -/
structure Report where
  title : String
  path : Option Path := none
  message : Option String := none

namespace Report

/-- The terminal's switch to bold red. -/
def red : String := "\x1b[1;31m"

/-- The terminal's switch to yellow. -/
def yellow : String := "\x1b[33m"

/-- The terminal's switch back to plain text. -/
def plain : String := "\x1b[0m"

/-- The dashes before a title. -/
def leadingDashes : Nat := 10

/-- The columns that a title line fills, if the title is short enough. -/
def titleColumns : Nat := 60

/-- The width to which messages are filled. -/
def messageWidth : Nat := 72

/-- A row of dashes. -/
def dashes (n : Nat) : String := String.ofList (List.replicate n '-')

/-- The title between its dashes; the columns of a title are counted in octets. -/
def titleLine (title : String) : String :=
  dashes leadingDashes ++ " " ++ title ++ " "
    ++ dashes (titleColumns - (2 + title.utf8ByteSize + leadingDashes))

/-- The lines of a message after filling. -/
def messageLines (message : String) : List String :=
  ((Text.lines message.toList).flatMap (Text.fillLine messageWidth)).map String.ofList

/-- The lines of a report. -/
def lines (r : Report) : List String :=
  [red ++ titleLine r.title ++ plain]
    ++ (r.path.map fun p => yellow ++ p.lossy ++ plain).toList
    ++ (match r.message with
      | none => []
      | some message => "" :: messageLines message)
    ++ [""]

/-- The text of a report, every line with its end. -/
def text (r : Report) : String := String.join (r.lines.map (· ++ "\n"))

end Report

end TwinBuild
