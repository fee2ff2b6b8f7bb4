import TwinBuild.Path.Clean

/-!
# The file tree

A tree is a map from places to directories and files. Paths are read against it component by
component: what is gone through must be a directory, a full stop stays, two go up, and the last
component may be missing where its directory exists.

Main statements: `get?_put` and `get?_remove`, what an update does to the map.
-/

namespace TwinBuild

/-- What starting a file as a program does. -/
inductive Behaviour where
  /-- The file cannot be started. -/
  | none
  /-- A program that exits with the status of the first listed argument it is given, else with its
  usual status. -/
  | script (usual : Nat) (failures : List (Octets × Nat))
  /-- The command interpreter. -/
  | shell
deriving DecidableEq, Repr

/-- A file: its content, whether it may be started, and what starting it does. -/
structure File where
  content : Octets
  executable : Bool := false
  behaviour : Behaviour := .none
deriving DecidableEq, Repr

/-- What a place holds. -/
inductive Node where
  | directory
  | file (f : File)
deriving DecidableEq, Repr

/-- A file tree, as the list of its places below the root. -/
structure Files where
  entries : List (Place × Node)

/-- The current directory: a place, of whose last levels some may have been removed while it was
entered. A removed directory can still be left, and holds nothing any more. -/
structure CurrentDirectory where
  place : Place
  /-- How many of the last levels have been removed. -/
  lost : Nat := 0
deriving DecidableEq, Repr

/-- Go up through the removed levels along the pieces of a path, as far as they lead. -/
def CurrentDirectory.climb (here : CurrentDirectory) :
    List Octets → CurrentDirectory × List Octets
  | [] => (here, [])
  | piece :: rest =>
    if here.lost = 0 then (here, piece :: rest)
    else if piece = Path.currentName then here.climb rest
    else if piece = Path.parentName then
      CurrentDirectory.climb { place := here.place.dropLast, lost := here.lost - 1 } rest
    else (here, piece :: rest)

namespace Files

open Octets (slash)

/-- The tree that is a bare root. -/
def empty : Files := ⟨[]⟩

/-- What a place holds; the root is a directory. -/
def get? (t : Files) (place : Place) : Option Node :=
  if place = [] then some .directory else (t.entries.find? fun e => e.1 == place).map (·.2)

/-- Let a place hold a node. -/
def put (t : Files) (place : Place) (node : Node) : Files :=
  ⟨(place, node) :: t.entries.filter fun e => e.1 != place⟩

/-- Take away a place and everything below it. -/
def remove (t : Files) (place : Place) : Files :=
  ⟨t.entries.filter fun e => !place.isPrefixOf e.1⟩

private theorem find?_filter_place (entries : List (Place × Node)) (keep : Place → Bool)
    (q : Place) :
    (entries.filter fun e => keep e.1).find? (fun e => e.1 == q)
      = if keep q then entries.find? (fun e => e.1 == q) else none := by
  induction entries with
  | nil => simp
  | cons e rest ih =>
    by_cases hk : keep e.1 = true <;> by_cases he : e.1 = q
    · subst he; simp [hk]
    · simp [hk, he, ih]
    · subst he; simp [hk, ih]
    · simp [hk, he, ih]

theorem get?_put (t : Files) {place : Place} (h : place ≠ []) (node : Node) (q : Place) :
    (t.put place node).get? q = if q = place then some node else t.get? q := by
  by_cases hq : q = place
  · subst hq
    simp [get?, put, h]
  · have hne : (place == q) = false := beq_eq_false_iff_ne.2 fun e => hq e.symm
    have hkeep : (q != place) = true := by simpa using hq
    simp only [get?, put, List.find?_cons, hne, hq, if_false]
    rw [find?_filter_place t.entries (· != place) q, if_pos hkeep]

theorem get?_remove (t : Files) (place q : Place) (hq : q ≠ []) :
    (t.remove place).get? q = if place <+: q then none else t.get? q := by
  simp only [get?, remove, if_neg hq]
  rw [find?_filter_place t.entries (fun p => !place.isPrefixOf p) q]
  by_cases hpre : place <+: q
  · simp [hpre, List.isPrefixOf_iff_prefix.2 hpre]
  · have : place.isPrefixOf q = false := by
      rw [Bool.eq_false_iff]
      exact fun h => hpre (List.isPrefixOf_iff_prefix.1 h)
    simp [hpre, this]

/-- The longest name that a directory can hold. -/
def maxName : Nat := 255

/-- The longest path that the operating system reads. -/
def maxPath : Nat := 4095

/-- Follow the pieces of a path from a place; the place reached may be missing only at the end. -/
def walk (t : Files) (here : Place) : List Octets → Except Errno (Place × Option Node)
  | [] => .ok (here, t.get? here)
  | piece :: rest =>
    match t.get? here with
    | none => .error .noEntry
    | some (.file _) => .error .notADirectory
    | some .directory =>
      if piece = Path.currentName then t.walk here rest
      else if piece = Path.parentName then t.walk here.dropLast rest
      else if piece.length > maxName then .error .nameTooLong
      else match t.get? (here ++ [piece]), rest with
        | none, [] => .ok (here ++ [piece], none)
        | none, _ :: _ => .error .noEntry
        | some _, _ => t.walk (here ++ [piece]) rest

/-- The names, full stops and parents of a path, in order. -/
def steps (p : Path) : List Octets := (Separated.split slash p.text).filter (· != [])

/-- Whether a path insists, by a slash at its end, that it names a directory. -/
def wantsDirectory (p : Path) : Bool := p.text.getLast? == some slash

/-- Read a path without regard to a slash at its end, from the current directory. A directory that has
been removed has no entries. -/
def locate (t : Files) (start : CurrentDirectory) (p : Path) :
    Except Errno (Place × Option Node) :=
  if p.text.isEmpty then .error .noEntry
  else if p.text.length > maxPath then .error .nameTooLong
  else if p.isAbsolute then t.walk [] (steps p)
  else
    let (here, rest) := start.climb (steps p)
    if here.lost = 0 then t.walk here.place rest
    else if rest.isEmpty then .ok (here.place, some .directory)
    else .error .noEntry

/-- Read a path; a file is not found under a path that wants a directory. -/
def lookup (t : Files) (start : CurrentDirectory) (p : Path) :
    Except Errno (Place × Option Node) :=
  match t.locate start p with
  | .ok (place, some (.file f)) =>
    if wantsDirectory p then .error .notADirectory else .ok (place, some (.file f))
  | found => found

/-- The current directory after entering a directory. -/
def enter (t : Files) (start : CurrentDirectory) (p : Path) : Except Errno CurrentDirectory :=
  match t.lookup start p with
  | .error number => .error number
  | .ok (_, none) => .error .noEntry
  | .ok (_, some (.file _)) => .error .notADirectory
  | .ok (place, some .directory) =>
    if p.isAbsolute then .ok { place }
    else
      let (here, _) := start.climb (steps p)
      .ok (if here.lost = 0 then { place } else here)

/-- The current directory once the tree has changed: the levels that are no directories now are
lost. -/
def surviving (t : Files) (here : CurrentDirectory) : CurrentDirectory :=
  let gone := (List.range here.place.length).find? fun n =>
    here.lost ≤ n && t.get? (here.place.take (here.place.length - n)) == some .directory
  { here with lost := gone.getD here.place.length }

/-- Places in the order of a listing: directories before what they hold, names octet by octet. -/
def placeLe : Place → Place → Bool
  | [], _ => true
  | _ :: _, [] => false
  | a :: as, b :: bs => if a = b then placeLe as bs else Octets.le a b

/-- Everything below a place, in the order of a listing, with paths relative to it. -/
def listing (t : Files) (place : Place) : List (Place × Node) :=
  let below := t.entries.filterMap fun e =>
    if place.isPrefixOf e.1 && place.length < e.1.length then
      some (e.1.drop place.length, e.2)
    else none
  below.mergeSort fun a b => placeLe a.1 b.1

end Files

end TwinBuild
