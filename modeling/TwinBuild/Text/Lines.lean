/-!
# The lines of a text

A line ends at a line feed or at a carriage return and a line feed; a final line end begins no
further line.
-/

namespace TwinBuild.Text

/-- The lines of a text, without their ends. -/
def lines : List Char → List (List Char)
  | [] => []
  | '\n' :: rest => [] :: lines rest
  | '\r' :: '\n' :: rest => [] :: lines rest
  | c :: rest =>
    match rest, lines rest with
    | [], _ => [[c]]
    | _ :: _, [] => [[c]]
    | _ :: _, line :: others => (c :: line) :: others

example : lines "a\r\n\nb\n".toList = ["a".toList, [], "b".toList] := by decide

end TwinBuild.Text
