import TwinBuild.Text.Break

/-!
# Filling lines

A line of a message is divided so that the whole costs least: every line costs the same, a line
costs more the further its width is from the one aimed at, much more where it is wider, and a last
line of one short word costs a little. Of equally good divisions the one whose last line begins
earliest is taken, and so on backwards.
-/

namespace TwinBuild.Text

/-- What a division of a line into lines costs. -/
structure Prices where
  line : Nat
  excess : Nat
  shortLast : Nat
  shortShare : Nat

/-- The prices by which messages are filled: a line costs 1000, each column too many 2500, and a
last line of one word narrower than a quarter of the width 25. -/
def messagePrices : Prices := ⟨1000, 2500, 25, 4⟩

/-- The price of one line of the given width; `last` says that no word follows it, `single` that it
holds one word. -/
def Prices.ofLine (p : Prices) (target width : Nat) (last single : Bool) : Nat :=
  p.line +
    (if target < width then (width - target) * p.excess
     else if !last then (target - width) * (target - width)
     else if single && p.shortShare * width < target then p.shortLast
     else 0)

/-- Cut a word into pieces of at most `limit` columns, or of one character if that is wider; its
spaces stay with the last piece. -/
def Word.pieces (limit : Nat) (w : Word) : List Word :=
  go [] 0 (Glyph.ofChars w.text)
where
  /-- The pieces of what is left; `held` is the reversed beginning of a piece, `columns` wide. -/
  go (held : List Glyph) (columns : Nat) : List Glyph → List Word
    | [] => [⟨held.reverse.flatMap Glyph.text, w.spaces⟩]
    | .control text :: rest => go (.control text :: held) columns rest
    | .shown c :: rest =>
      if 0 < columns && limit < columns + Text.width c then
        ⟨held.reverse.flatMap Glyph.text, 0⟩ :: go [.shown c] (Text.width c) rest
      else go (.shown c :: held) (columns + Text.width c) rest

/-- The best division that ends after some word: its cost and where its last line begins. -/
structure Best where
  cost : Nat
  start : Nat
deriving Repr, DecidableEq

/-- The best division that ends before word `stop`, given the best ones that end earlier. The
words from `i` to `stop` span `offsets[stop] - offsets[i]` columns with their spaces. -/
def bestEnding (p : Prices) (target count : Nat) (offsets widths : Array Nat) (earlier : Array Best)
    (stop : Nat) : Best :=
  let last := stop == count
  let wordEnd := offsets.getD (stop - 1) 0 + widths.getD (stop - 1) 0
  (List.range stop).foldl
    (fun best i =>
      let width := wordEnd - offsets.getD i 0
      let cost := (earlier.getD i ⟨0, 0⟩).cost + p.ofLine target width last (i + 1 == stop)
      if i = 0 || cost < best.cost then ⟨cost, i⟩ else best)
    ⟨0, 0⟩

/-- For every number of words, the best division of that many. -/
def bests (p : Prices) (target : Nat) (words : List Word) : Array Best :=
  let offsets := words.foldl
    (fun a w => a.push (a.getD (a.size - 1) 0 + w.width + w.spaces)) #[0]
  let widths := (words.map Word.width).toArray
  (List.range words.length).foldl
    (fun earlier i => earlier.push
      (bestEnding p target words.length offsets widths earlier (i + 1)))
    #[⟨0, 0⟩]

/-- The lines that end before word `stop`, read back from the end; at most `fuel` of them. -/
def linesBack (table : Array Best) (words : List Word) :
    Nat → Nat → List (List Word) → List (List Word)
  | 0, _, done => done
  | _ + 1, 0, done => done
  | fuel + 1, stop, done =>
    let start := (table.getD stop ⟨0, 0⟩).start
    linesBack table words fuel start (((words.take stop).drop start) :: done)

/-- The words divided into lines of the least cost. -/
def fillWords (p : Prices) (target : Nat) (words : List Word) : List (List Word) :=
  linesBack (bests p target words) words words.length words.length []

/-- The text of one line: its words with the spaces between them. -/
def lineText : List Word → List Char
  | [] => []
  | [w] => w.text
  | w :: rest => w.wholeText ++ lineText rest

/-- The line without the spaces at its end. -/
def dropTrailingSpaces (line : List Char) : List Char :=
  (line.reverse.dropWhile (· = ' ')).reverse

/-- The lines that show one line of a message, of which the leading spaces are kept on each. A
line without leading spaces that is narrower than `width` octets stays as it is. -/
def fillLine (width : Nat) (line : List Char) : List (List Char) :=
  let indent := line.takeWhile (· = ' ')
  let rest := line.dropWhile (· = ' ')
  if indent.isEmpty && (String.ofList rest).utf8ByteSize < width then
    [dropTrailingSpaces rest]
  else
    let room := width - indent.length
    let words := (breakWords rest).flatMap fun w =>
      if w.width > room then w.pieces room else [w]
    let words := if indent.isEmpty then words else ⟨[], 0⟩ :: words
    (fillWords messagePrices (max room 1) words).map fun line => indent ++ lineText line

end TwinBuild.Text
