import TwinBuild.Octets

/-!
# Reading octets as text

An octet string is cut into characters and broken runs. A broken run is a maximal beginning of a
well-formed sequence that its next octet rules out, or one octet that can begin nothing. Lossy
text shows one replacement character for each broken run; strict decoding accepts a string
without broken runs.

Main statement: `flatMap_octets_pieces`, the pieces together are the string.
-/

namespace TwinBuild.Utf8

/-- A decoded character, with the octets that spell it, or a run of octets that spell none. -/
inductive Piece where
  | scalar (c : Char) (octets : Octets)
  | broken (octets : Octets)
deriving Repr, DecidableEq

namespace Piece

/-- The octets a piece was read from. -/
def octets : Piece → Octets
  | scalar _ bytes => bytes
  | broken bytes => bytes

/-- The character a piece spells, if it is not broken. -/
def char? : Piece → Option Char
  | scalar c _ => some c
  | broken _ => none

end Piece

/-- An inclusive range of octets. -/
structure Range where
  low : UInt8
  high : UInt8
deriving Repr, DecidableEq

/-- Whether an octet lies in the range. -/
def Range.has (r : Range) (b : UInt8) : Bool := r.low ≤ b && b ≤ r.high

/-- The octets that continue a sequence when no narrower rule applies. -/
def trail : Range := ⟨0x80, 0xBF⟩

/-- The ranges of the octets that must follow a first octet, or `none` if it begins no sequence.
The second octet is narrowed so that no overlong form, surrogate or number past the last
character is spelled. -/
def due (b : UInt8) : Option (List Range) :=
  if b < 0x80 then some []
  else if b < 0xC2 then none
  else if b < 0xE0 then some [trail]
  else if b = 0xE0 then some [⟨0xA0, 0xBF⟩, trail]
  else if b = 0xED then some [⟨0x80, 0x9F⟩, trail]
  else if b < 0xF0 then some [trail, trail]
  else if b = 0xF0 then some [⟨0x90, 0xBF⟩, trail, trail]
  else if b < 0xF4 then some [trail, trail, trail]
  else if b = 0xF4 then some [⟨0x80, 0x8F⟩, trail, trail]
  else none

/-- The number spelled by a complete sequence. -/
def value : Octets → Nat
  | [a] => a.toNat
  | [a, b] => a.toNat % 32 * 64 + b.toNat % 64
  | [a, b, c] => a.toNat % 16 * 4096 + b.toNat % 64 * 64 + c.toNat % 64
  | [a, b, c, d] =>
    a.toNat % 8 * 262144 + b.toNat % 64 * 4096 + c.toNat % 64 * 64 + d.toNat % 64
  | _ => 0

/-- A sequence that has begun: its octets so far and the ranges of those it still needs. Nothing has
begun when no octet is held. -/
structure Pending where
  held : Octets
  awaited : List Range

/-- No sequence has begun. -/
def Pending.none : Pending := ⟨[], []⟩

/-- The octet `b` where a sequence may begin: the pieces it completes and what it leaves pending. -/
def start (b : UInt8) : List Piece × Pending :=
  match due b with
  | Option.none => ([.broken [b]], .none)
  | some [] => ([.scalar (Char.ofNat b.toNat) [b]], .none)
  | some ranges => ([], ⟨[b], ranges⟩)

/-- The next octet: it goes on with the pending sequence, or it breaks it and begins anew. -/
def step (p : Pending) (b : UInt8) : List Piece × Pending :=
  match p.awaited with
  | [] => start b
  | r :: awaited =>
    if r.has b then
      if awaited.isEmpty then
        ([.scalar (Char.ofNat (value (p.held ++ [b]))) (p.held ++ [b])], .none)
      else ([], ⟨p.held ++ [b], awaited⟩)
    else (.broken p.held :: (start b).1, (start b).2)

/-- The pieces of the pending sequence followed by the string. -/
def piecesFrom (p : Pending) : Octets → List Piece
  | [] => if p.held.isEmpty then [] else [.broken p.held]
  | b :: rest => (step p b).1 ++ piecesFrom (step p b).2 rest

/-- The characters and broken runs of an octet string, in order. -/
def pieces (s : Octets) : List Piece := piecesFrom .none s

/-- The character shown for a broken run. -/
def replacement : Char := '\uFFFD'

/-- The text of an octet string with one replacement character for each broken run. -/
def lossy (s : Octets) : String :=
  String.ofList ((pieces s).map fun piece => piece.char?.getD replacement)

/-- The text of an octet string that has no broken run. -/
def decode? (s : Octets) : Option String :=
  ((pieces s).mapM Piece.char?).map String.ofList

/-- Whether an octet string is well-formed UTF-8. -/
def isValid (s : Octets) : Bool := (decode? s).isSome

/-- What a piece list spells, followed by what is pending. -/
private def spelled (r : List Piece × Pending) : Octets := r.1.flatMap Piece.octets ++ r.2.held

private theorem spelled_start (b : UInt8) : spelled (start b) = [b] := by
  unfold start
  split <;> rfl

private theorem spelled_step (p : Pending) (b : UInt8) (hp : p.awaited = [] → p.held = []) :
    spelled (step p b) = p.held ++ [b] := by
  unfold step
  split
  · next h => simp [spelled_start, hp h]
  · split
    · split <;> simp [spelled, Piece.octets, Pending.none]
    · have := spelled_start b
      simp only [spelled] at this ⊢
      simp [Piece.octets, this]

private theorem idle_start (b : UInt8) : (start b).2.awaited = [] → (start b).2.held = [] := by
  unfold start
  split
  · simp [Pending.none]
  · simp [Pending.none]
  · next ranges hne h => intro h'; exact absurd h' (by simpa using hne)

private theorem idle_step (p : Pending) (b : UInt8) :
    (step p b).2.awaited = [] → (step p b).2.held = [] := by
  unfold step
  split
  · exact idle_start b
  · split
    · split
      · simp [Pending.none]
      · next h => intro h'; simp at h'; simp [h'] at h
    · exact idle_start b

private theorem flatMap_octets_piecesFrom (s : Octets) (p : Pending)
    (hp : p.awaited = [] → p.held = []) :
    (piecesFrom p s).flatMap Piece.octets = p.held ++ s := by
  induction s generalizing p with
  | nil =>
    simp only [piecesFrom]
    split
    · next h => simp_all
    · simp [Piece.octets]
  | cons b rest ih =>
    have hstep := spelled_step p b hp
    simp only [spelled] at hstep
    rw [piecesFrom, List.flatMap_append, ih _ (idle_step p b), ← List.append_assoc, hstep]
    simp

/-- The pieces of a string, put together, are the string. -/
theorem flatMap_octets_pieces (s : Octets) : (pieces s).flatMap Piece.octets = s := by
  simpa [pieces, Pending.none] using flatMap_octets_piecesFrom s .none (fun _ => rfl)

end TwinBuild.Utf8
