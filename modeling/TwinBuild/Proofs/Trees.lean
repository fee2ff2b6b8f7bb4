import Mathlib.Data.List.Induction
import TwinBuild.Proofs.Places
import TwinBuild.System.Files

/-!
# Walking through file trees

A walk that finds its way ends at the place that the pieces lead to, whatever the tree holds, and
says what the tree holds there. It finds its way again in every tree that has the same directories
and perhaps more. In a tree where every place has a directory above it, nothing is below a file.

Main statements: `walk_eq_ok`, `walk_of_directories`, `get?_remove_file`.
-/

namespace TwinBuild

namespace Files

/-! ## Walks -/

/-- One piece further from a place. -/
def advance (here : Place) (piece : Octets) : Place :=
  if piece = Path.currentName then here
  else if piece = Path.parentName then here.dropLast
  else here ++ [piece]

/-- A path leads where its pieces lead, one after the other. -/
theorem foldl_advance_steps (here : Place) (p : Path) :
    (steps p).foldl advance (if p.isAbsolute then [] else here) = Place.resolve here p := by
  rw [Place.resolve_eq]
  unfold steps Path.steps
  generalize Separated.split Octets.slash p.text = pieces
  generalize (if p.isAbsolute then [] else here) = start
  induction pieces generalizing start with
  | nil => rfl
  | cons piece pieces ih =>
      by_cases hnil : piece = []
      · simpa [hnil, Path.isStep] using ih start
      · by_cases hcurrent : piece = Path.currentName
        · simpa [hcurrent, Path.isStep, Path.currentName, advance] using ih start
        · have hstep : Place.follow start (Path.stepOf piece) = advance start piece := by
            unfold advance Path.stepOf
            rw [if_neg hcurrent]
            split <;> rfl
          rw [List.filter_cons_of_pos (by simpa using hnil),
            List.filter_cons_of_pos (by simp [Path.isStep, hnil, hcurrent]), List.map_cons,
            List.foldl_cons, List.foldl_cons, hstep]
          exact ih (advance start piece)

@[simp] theorem get?_root (t : Files) : t.get? [] = some .directory := rfl

theorem ne_nil_of_get? {t : Files} {place : Place} (h : t.get? place ≠ some .directory) :
    place ≠ [] := by
  rintro rfl
  exact h rfl

/-- **A walk** ends where the pieces lead and says what is there. -/
theorem walk_eq_ok {t : Files} {here place : Place} {pieces : List Octets} {node : Option Node}
    (h : t.walk here pieces = .ok (place, node)) :
    place = pieces.foldl advance here ∧ node = t.get? place := by
  induction pieces generalizing here with
  | nil =>
      cases h
      exact ⟨rfl, rfl⟩
  | cons piece pieces ih =>
      unfold walk at h
      split at h
      · cases h
      · cases h
      rw [List.foldl_cons, advance]
      split at h
      · next hcurrent =>
        rw [if_pos hcurrent]
        exact ih h
      next hcurrent =>
      rw [if_neg hcurrent]
      split at h
      · next hparent =>
        rw [if_pos hparent]
        exact ih h
      next hparent =>
      rw [if_neg hparent]
      split at h
      · cases h
      split at h
      · next hnone =>
        cases h
        exact ⟨rfl, hnone.symm⟩
      · cases h
      · exact ih h

/-- **A walk finds its way again** where the directories are still directories. -/
theorem walk_of_directories {t u : Files} {here place : Place} {pieces : List Octets}
    {node : Option Node}
    (hdirectories : ∀ q, t.get? q = some .directory → u.get? q = some .directory)
    (h : t.walk here pieces = .ok (place, node)) :
    u.walk here pieces = .ok (place, u.get? place) := by
  induction pieces generalizing here with
  | nil =>
      cases h
      rfl
  | cons piece pieces ih =>
      unfold walk at h ⊢
      split at h
      · cases h
      · cases h
      next hhere =>
      rw [hdirectories here hhere]
      simp only
      split at h
      · next hcurrent => rw [if_pos hcurrent]; exact ih h
      next hcurrent =>
      rw [if_neg hcurrent]
      split at h
      · next hparent => rw [if_pos hparent]; exact ih h
      next hparent =>
      rw [if_neg hparent]
      split at h
      · cases h
      next hlength =>
      rw [if_neg hlength]
      cases hbefore : t.get? (here ++ [piece]) with
      | none =>
          cases pieces with
          | cons next pieces =>
              rw [hbefore] at h
              cases h
          | nil =>
              rw [hbefore] at h
              cases h
              -- the place was missing; now it may hold something
              cases hnode : u.get? (here ++ [piece]) with
              | none => rfl
              | some node =>
                  show u.walk (here ++ [piece]) [] = _
                  rw [walk, hnode]
      | some node =>
          rw [hbefore] at h
          have hthere := ih h
          cases hnode : u.get? (here ++ [piece]) with
          | some node => exact hthere
          | none =>
              -- only a file may be gone, and nothing follows a file
              cases pieces with
              | nil =>
                  rw [walk, hnode] at hthere
                  exact hthere
              | cons next pieces =>
                  unfold walk at hthere
                  rw [hnode] at hthere
                  cases hthere

/-! ## Trees without gaps -/

/-- Every place that a tree holds has a directory above it. -/
def Grounded (t : Files) : Prop :=
  ∀ place node, t.get? place = some node → t.get? place.dropLast = some .directory

/-- It is enough to look at what is listed. -/
theorem grounded_of_entries {t : Files}
    (habove : ∀ e ∈ t.entries, t.get? e.1.dropLast = some .directory) : t.Grounded := by
  intro place node h
  by_cases hroot : place = []
  · subst hroot
    rfl
  · rw [get?, if_neg hroot, Option.map_eq_some_iff] at h
    obtain ⟨e, hfound, -⟩ := h
    have hplace := List.find?_some hfound
    rw [← beq_iff_eq.1 hplace]
    exact habove e (List.mem_of_find?_eq_some hfound)

/-- Where a walk from a directory finds nothing, there is a directory above. -/
theorem Grounded.above_of_walk {t : Files} (ht : t.Grounded) {here place : Place}
    {pieces : List Octets} (hhere : t.get? here = some .directory)
    (h : t.walk here pieces = .ok (place, none)) : t.get? place.dropLast = some .directory := by
  induction pieces generalizing here with
  | nil =>
      have hnode := congrArg Prod.snd (Except.ok.inj h)
      rw [hhere] at hnode
      cases hnode
  | cons piece pieces ih =>
      unfold walk at h
      rw [hhere] at h
      simp only at h
      split at h
      · exact ih hhere h
      split at h
      · exact ih (ht here _ hhere) h
      split at h
      · cases h
      cases hbelow : t.get? (here ++ [piece]) with
      | none =>
          rw [hbelow] at h
          cases pieces with
          | nil =>
              cases h
              rw [List.dropLast_concat]
              exact hhere
          | cons next pieces => cases h
      | some node =>
          rw [hbelow] at h
          cases node with
          | directory => exact ih hbelow h
          | file f =>
              -- a walk that has come to a file is over, and has found it
              cases pieces with
              | nil =>
                  have hnode := congrArg Prod.snd (Except.ok.inj h)
                  rw [hbelow] at hnode
                  cases hnode
              | cons next pieces =>
                  simp only [walk, hbelow] at h
                  cases h

/-- Nothing is below what is no directory. -/
theorem Grounded.get?_below {t : Files} (h : t.Grounded) {place : Place}
    (hplace : t.get? place ≠ some .directory) (q : Place) (hq : place <+: q) (hne : q ≠ place) :
    t.get? q = none := by
  obtain ⟨rest, rfl⟩ := hq
  induction rest using List.reverseRecOn with
  | nil => exact absurd (List.append_nil _) hne
  | append_singleton rest name ih =>
      rw [Option.eq_none_iff_forall_ne_some]
      intro node hnode
      have habove := h _ _ hnode
      rw [← List.append_assoc, List.dropLast_concat] at habove
      by_cases hrest : place ++ rest = place
      · rw [hrest] at habove
        exact hplace habove
      · rw [ih hrest] at habove
        cases habove

/-- **Taking a file away** takes nothing else away. -/
theorem Grounded.get?_remove_file {t : Files} (h : t.Grounded) {place : Place} {f : File}
    (hfile : t.get? place = some (.file f)) (q : Place) :
    (t.remove place).get? q = if q = place then none else t.get? q := by
  have hno : t.get? place ≠ some .directory := by
    rw [hfile]
    simp
  have hplace : place ≠ [] := ne_nil_of_get? hno
  by_cases hroot : q = []
  · subst hroot
    rw [if_neg (Ne.symm hplace)]
    rfl
  rw [get?_remove t place q hroot]
  by_cases hq : q = place
  · subst hq
    rw [if_pos (List.prefix_refl _), if_pos rfl]
  · rw [if_neg hq]
    split
    · next hbelow => exact (h.get?_below hno q hbelow hq).symm
    · rfl

theorem Grounded.remove_file {t : Files} (h : t.Grounded) {place : Place} {f : File}
    (hfile : t.get? place = some (.file f)) : (t.remove place).Grounded := by
  intro q node hq
  rw [h.get?_remove_file hfile] at hq ⊢
  split at hq
  · cases hq
  · have habove := h q node hq
    rw [if_neg]
    · exact habove
    · intro hplace
      rw [hplace, hfile] at habove
      cases habove

/-- A place below a directory may come to hold a file, or a directory where it is no directory
yet. -/
theorem Grounded.put {t : Files} (h : t.Grounded) {place : Place} (node : Node)
    (habove : t.get? place.dropLast = some .directory) (hplace : t.get? place ≠ some .directory) :
    (t.put place node).Grounded := by
  have hne := ne_nil_of_get? hplace
  intro q node' hq
  rw [get?_put t hne] at hq ⊢
  have hdirectory : t.get? q.dropLast = some .directory := by
    split at hq
    · next heq => rw [heq]; exact habove
    · exact h q node' hq
  rw [if_neg]
  · exact hdirectory
  · intro heq
    rw [heq] at hdirectory
    exact hplace hdirectory

/-! ## Reading paths -/

/-- The levels of a current directory that are not lost are a directory of the tree. -/
def HasCurrent (t : Files) (here : CurrentDirectory) : Prop :=
  t.get? (here.place.take (here.place.length - here.lost)) = some .directory

/-- Going up through lost levels leads nowhere else, and to levels that are not lost. -/
theorem climb_eq {here there : CurrentDirectory} {pieces rest : List Octets}
    (h : here.climb pieces = (there, rest)) :
    rest.foldl advance there.place = pieces.foldl advance here.place
    ∧ there.place.take (there.place.length - there.lost)
      = here.place.take (here.place.length - here.lost) := by
  induction pieces generalizing here with
  | nil =>
      cases h
      exact ⟨rfl, rfl⟩
  | cons piece pieces ih =>
      unfold CurrentDirectory.climb at h
      rw [List.foldl_cons, advance]
      split at h
      · cases h
        exact ⟨rfl, rfl⟩
      next hlost =>
      split at h
      · next hcurrent =>
        rw [if_pos hcurrent]
        exact ih h
      next hcurrent =>
      rw [if_neg hcurrent]
      split at h
      · next hparent =>
        rw [if_pos hparent]
        obtain ⟨hfold, hkept⟩ := ih h
        refine ⟨hfold, hkept.trans ?_⟩
        -- one level less, and one lost level less
        show here.place.dropLast.take (here.place.dropLast.length - (here.lost - 1)) = _
        rw [List.length_dropLast, List.dropLast_eq_take, List.take_take]
        congr 1
        omega
      · next hparent =>
        cases h
        rw [if_neg hparent, List.foldl_cons, advance, if_neg hcurrent, if_neg hparent]
        exact ⟨rfl, rfl⟩

/-- How a path is read: by a walk from the root or from a current directory that is not lost, or
it ends within the lost levels. -/
theorem locate_cases {t : Files} {start : CurrentDirectory} {p : Path} {place : Place}
    {node : Option Node} (h : t.locate start p = .ok (place, node)) :
    (∃ here pieces, t.walk here pieces = .ok (place, node)
      ∧ pieces.foldl advance here = Place.resolve start.place p
      ∧ (t.HasCurrent start → t.get? here = some .directory)
      ∧ ∀ u : Files, u.locate start p = u.walk here pieces)
    ∨ (place = Place.resolve start.place p ∧ node = some .directory) := by
  have hsteps := foldl_advance_steps start.place p
  unfold locate at h
  split at h
  · cases h
  next hempty =>
  split at h
  · cases h
  next hlength =>
  split at h
  · next habsolute =>
    rw [if_pos habsolute] at hsteps
    refine .inl ⟨[], steps p, h, hsteps, fun _ => rfl, fun u => ?_⟩
    rw [locate, if_neg hempty, if_neg hlength, if_pos habsolute]
  next habsolute =>
  rw [if_neg habsolute] at hsteps
  generalize hclimb : start.climb (steps p) = climbed at h
  obtain ⟨here, rest⟩ := climbed
  obtain ⟨hfold, hkept⟩ := climb_eq hclimb
  simp only at h
  split at h
  · next hlost =>
    refine .inl ⟨here.place, rest, h, hfold.trans hsteps, ?_, fun u => ?_⟩
    · intro hcurrent
      rw [HasCurrent, ← hkept, hlost, Nat.sub_zero, List.take_length] at hcurrent
      exact hcurrent
    · rw [locate, if_neg hempty, if_neg hlength, if_neg habsolute, hclimb]
      simp only
      rw [if_pos hlost]
  · split at h
    · next hrest =>
      cases h
      rw [List.isEmpty_iff.1 hrest] at hfold
      exact .inr ⟨hfold.trans hsteps, rfl⟩
    · cases h

/-- **A path that is read** names the place that it leads to. -/
theorem locate_eq_ok {t : Files} {start : CurrentDirectory} {p : Path} {place : Place}
    {node : Option Node} (h : t.locate start p = .ok (place, node)) :
    place = Place.resolve start.place p ∧ (node = t.get? place ∨ node = some .directory) := by
  rcases locate_cases h with ⟨here, pieces, hwalk, hfold, -, -⟩ | ⟨hplace, hnode⟩
  · obtain ⟨hplace, hnode⟩ := walk_eq_ok hwalk
    exact ⟨hplace.trans hfold, .inl hnode⟩
  · exact ⟨hplace, .inr hnode⟩

theorem locate_of_directories {t u : Files} {start : CurrentDirectory} {p : Path} {place : Place}
    {node : Option Node}
    (hdirectories : ∀ q, t.get? q = some .directory → u.get? q = some .directory)
    (hnode : node ≠ some .directory) (h : t.locate start p = .ok (place, node)) :
    u.locate start p = .ok (place, u.get? place) := by
  rcases locate_cases h with ⟨here, pieces, hwalk, -, -, hother⟩ | ⟨-, hdirectory⟩
  · rw [hother u]
    exact walk_of_directories hdirectories hwalk
  · exact absurd hdirectory hnode

/-- **A path that names nothing** names a place below a directory. -/
theorem Grounded.above_of_locate {t : Files} (ht : t.Grounded) {start : CurrentDirectory}
    (hcurrent : t.HasCurrent start) {p : Path} {place : Place}
    (h : t.locate start p = .ok (place, none)) :
    t.get? place = none ∧ t.get? place.dropLast = some .directory := by
  rcases locate_cases h with ⟨here, pieces, hwalk, -, hhere, -⟩ | ⟨-, hdirectory⟩
  · exact ⟨(walk_eq_ok hwalk).2.symm, ht.above_of_walk (hhere hcurrent) hwalk⟩
  · cases hdirectory

end Files

end TwinBuild
