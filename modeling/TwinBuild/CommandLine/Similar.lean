import TwinBuild.CommandLine.Switch

/-!
# Similar names

A mistyped switch is answered with the one whose name is most like it. Two names are alike by the
letters they have in common near the same position and by how many of these stand in another
order. The measure and the bound it must pass are floating-point numbers of double precision, so
that a likeness just at the bound is decided by their rounding.
-/

namespace TwinBuild.Similar

/-- A letter with whether it has found its counterpart. -/
abbrev Marked := Char × Bool

/-- Mark the first unmarked `c` between two positions, where the list begins at position `here`. -/
def mark (c : Char) (low high : Nat) : Nat → List Marked → Option (List Marked)
  | _, [] => none
  | here, (d, marked) :: rest =>
    if high ≤ here then none
    else if low ≤ here && c == d && !marked then some ((d, true) :: rest)
    else (mark c low high (here + 1) rest).map ((d, marked) :: ·)

/-- The letters of a name that find a counterpart, in order, and the other name with the counterparts
marked; the list begins at position `here`. -/
def pair (reach : Nat) : Nat → List Char → List Marked → List Char × List Marked
  | _, [], other => ([], other)
  | here, c :: rest, other =>
    match mark c (here - reach) (here + reach + 1) 0 other with
    | some other => let (found, other) := pair reach (here + 1) rest other; (c :: found, other)
    | none => pair reach (here + 1) rest other

/-- How alike two names are, from nothing in common to the same: the mean of the shares of their
letters that have a counterpart and the share of these that stand in the same order. -/
def likeness (a b : List Char) : Float :=
  let (found, marked) := pair (max a.length b.length / 2 - 1) 0 a (b.map (·, false))
  let counterparts := (marked.filter (·.2)).map (·.1)
  let swapped := ((found.zip counterparts).filter fun p => p.1 != p.2).length / 2
  let k := found.length
  if k = 0 then 0
  else
    (k.toFloat / a.length.toFloat + k.toFloat / b.length.toFloat
      + (k - swapped).toFloat / k.toFloat) / 3

/-- Names are similar only if their likeness is above this. -/
def threshold : Float := 0.7

/-- The switch whose name is most like a text, if one is similar; of equally good ones the last. -/
def switch? (text : List Char) : Option Switch :=
  (Switch.all.foldl
    (fun best s =>
      let share := likeness text s.name.toList
      match best with
      | none => if threshold < share then some (s, share) else none
      | some (t, other) => if other ≤ share then some (s, share) else some (t, other))
    none).map (·.1)

example : switch? "configure".toList = some .configuring := by decide +kernel
example : switch? "nope".toList = none := by decide +kernel

end TwinBuild.Similar
