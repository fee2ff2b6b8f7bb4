import Mathlib.Logic.Relation
import TwinBuild.Proofs.Attempts

/-!
# One location, one spelling

Cleaning a path takes two passes: it is made absolute, and then its components are folded from left to
right, each on the path so far. What is folded so far is at any time the one spelling of a place, and
going up from the root stays there. So what comes out is the spelling of the place that the path leads
to, and that place is the same for all ways to respell the path.

Main statements: `absoluteClean_eq_fold`, `leadsAlike_of_eqvGen` and `one_spelling`.
-/

namespace TwinBuild

open Octets (slash dot)

/-! ## The spelling of a place as a path -/

namespace Place

theorem steps_path {place : Place} (h : ∀ name ∈ place, IsName name) : place.path.steps = place := by
  have hslash : ∀ name ∈ place, slash ∉ name := fun name hname => (h name hname).2.1
  rw [show place.path = ⟨[] ++ slash :: Separated.join [slash] place⟩ from rfl, Path.steps_of_slash]
  show ([] : List Octets) ++ _ = _
  rw [List.nil_append, Path.steps, Path.filter_split_join hslash]
  refine List.filter_eq_self.2 fun name hname => ?_
  simp [Path.isStep, (h name hname).1, (h name hname).2.2.1]

/-- The spelling of a place ends in its last name, so in no slash, unless the place is the root. -/
theorem getLast?_path {place : Place} (h : ∀ n ∈ place, IsName n) (hne : place ≠ []) :
    (path place).text.getLast? ≠ some slash := by
  obtain ⟨init, last, rfl⟩ := (List.eq_nil_or_concat place).resolve_left hne
  rw [List.concat_eq_append] at h ⊢
  obtain ⟨above, habove⟩ := Separated.exists_join_concat [slash] init last
  have hlast : IsName last := h last (by simp)
  intro hslash
  have htext : (path (init ++ [last])).text = (slash :: above) ++ last := by
    rw [List.cons_append, ← habove]
    rfl
  rw [htext, List.getLast?_append_of_ne_nil _ hlast.1] at hslash
  exact hlast.2.1 (List.mem_of_getLast? hslash)

/-- Going on from the spelling of a place by a name gives the spelling of the place below. -/
theorem join_path {place : Place} {name : Octets} (h : ∀ n ∈ place, IsName n)
    (hname : IsName name) :
    (path place).join ⟨name⟩ = path (place ++ [name]) := by
  by_cases hne : place = []
  · subst hne
    unfold Path.join
    rw [isAbsolute_of_isName hname, if_neg Bool.false_ne_true]
    rfl
  rcases Path.join_cases (path place) ⟨name⟩ (isAbsolute_of_isName hname) with
    ⟨hnil, -⟩ | ⟨before, hslash, -⟩ | ⟨-, hjoin⟩
  · cases hnil
  · refine absurd ?_ (getLast?_path h hne)
    rw [hslash, List.getLast?_concat]
  · rw [hjoin]
    unfold path
    rw [Separated.join_concat [slash] hne name]
    simp

/-- The parent of the spelling of a place is that of the place above. The root has none. -/
theorem parent?_path {place : Place} (h : ∀ n ∈ place, IsName n) :
    (path place).parent?.getD (path place) = path (List.dropLast place) := by
  have hbody : (path place).body = Separated.join [slash] place := by
    simp [Path.body, Path.anchor, Path.isAbsolute, path]
  have hanchor : (path place).anchor = [slash] := by simp [Path.anchor, Path.isAbsolute, path]
  have hstep : ∀ n ∈ place, Path.isStep n = true := by
    intro n hn
    simp [Path.isStep, (h n hn).1, (h n hn).2.2.1]
  unfold Path.parent?
  rw [hbody, hanchor]
  rcases List.eq_nil_or_concat place with rfl | ⟨init, last, hplace⟩
  · rfl
  rw [List.concat_eq_append] at hplace
  subst hplace
  have hdrop : Path.dropLastStep (init ++ [last]) = some init := by
    rw [List.forall_mem_append, List.forall_mem_singleton] at hstep
    unfold Path.dropLastStep
    rw [List.reverse_append, List.reverse_singleton, List.singleton_append,
      List.dropWhile_cons_of_neg (by simp [hstep.2])]
    simp only
    rcases List.eq_nil_or_concat init with rfl | ⟨init', last', hinit⟩
    · rfl
    · rw [List.concat_eq_append] at hinit
      have hlast' : Path.isStep last' = true := hstep.1 last' (by simp [hinit])
      rw [hinit, List.reverse_append, List.reverse_singleton, List.singleton_append,
        List.dropWhile_cons_of_neg (by simp [hlast'])]
      simp
  rw [Separated.split_join slash _ (by simp) fun n hn => (h n hn).2.1, hdrop,
    List.dropLast_concat]
  rfl

end Place

/-! ## Two passes -/

/-- The path that a component is by itself. -/
def Component.path : Component → Path
  | .root => ⟨[slash]⟩
  | .current => ⟨Path.currentName⟩
  | .parent => ⟨Path.parentName⟩
  | .normal name => ⟨name⟩

namespace Path

/-- A path gone on from by components, one after the other. -/
def extend (p : Path) (components : List Component) : Path :=
  components.foldl (fun q c => q.join c.path) p

/-- Components less a full stop at their beginning. -/
def withoutCurrent : List Component → List Component
  | .current :: rest => rest
  | components => components

/-- Whether a text begins with two slashes and no third, which may mean something of its own. -/
def startsWithTwoSlashes (p : Path) : Bool :=
  [slash, slash].isPrefixOf p.text && !([slash, slash, slash].isPrefixOf p.text)

/-- **The first pass**: a path made absolute. A leading full stop goes, a slash at the end stays, and
so do two slashes at the beginning. -/
def absolute (cwd : Except Fault Place) (p : Path) : Except Fault Path :=
  if p.text.isEmpty then .error .emptyPath
  else
    let start : Except Fault Path :=
      if p.startsWithTwoSlashes then .ok ((⟨[slash, slash]⟩ : Path).extend p.components.tail)
      else if p.isAbsolute then .ok ((⟨[]⟩ : Path).extend p.components)
      else cwd.map fun place => (Place.path place).extend (withoutCurrent p.components)
    start.map fun q => if p.text.getLast? = some slash then q.join ⟨[]⟩ else q

/-- A component put on a path: a full stop is nothing, and the directory above takes the last component
away if there is one. -/
def put (p : Path) : Component → Path
  | .current => p
  | .parent => p.parent?.getD p
  | c => p.join c.path

/-- **The second pass**: the components put on the empty path, one after the other. -/
def fold (p : Path) : Path := p.components.foldl put ⟨[]⟩

/-! ### What the passes come to -/

theorem stepOf_path {piece : Octets} : (stepOf piece).path = ⟨piece⟩ := by
  unfold stepOf
  split
  · next heq => rw [heq]; rfl
  · rfl

/-- Going on by the steps of a path has them after those that were there. -/
theorem extend_steps {pieces : List Octets}
    (h : ∀ piece ∈ pieces, slash ∉ piece ∧ isStep piece = true) (p : Path) :
    (p.extend (pieces.map stepOf)).isAbsolute = p.isAbsolute
    ∧ (p.extend (pieces.map stepOf)).steps = p.steps ++ pieces := by
  induction pieces generalizing p with
  | nil => exact ⟨rfl, (List.append_nil _).symm⟩
  | cons piece pieces ih =>
      rw [List.forall_mem_cons] at h
      obtain ⟨⟨hslash, hstep⟩, hrest⟩ := h
      have hrelative := isAbsolute_of_no_slash hslash
      obtain ⟨habsolute, hsteps⟩ := ih hrest (p.join ⟨piece⟩)
      rw [isAbsolute_join p _ hrelative] at habsolute
      rw [steps_join p _ hrelative, steps_of_isStep hslash hstep, List.append_assoc] at hsteps
      unfold extend at habsolute hsteps ⊢
      rw [List.map_cons, List.foldl_cons, stepOf_path]
      exact ⟨habsolute, hsteps⟩

/-- A slash at the end is no step. -/
theorem join_nil_steps (p : Path) :
    (p.join ⟨[]⟩).isAbsolute = p.isAbsolute ∧ (p.join ⟨[]⟩).steps = p.steps := by
  refine ⟨isAbsolute_join p _ rfl, ?_⟩
  rw [steps_join p _ rfl]
  exact List.append_nil _

theorem isAbsolute_of_two_slashes {p : Path} (h : p.startsWithTwoSlashes = true) :
    p.isAbsolute = true := by
  unfold startsWithTwoSlashes at h
  rw [Bool.and_eq_true, List.isPrefixOf_iff_prefix] at h
  obtain ⟨⟨rest, htext⟩, -⟩ := h
  unfold isAbsolute
  rw [← htext]
  rfl

theorem components_of_isAbsolute {p : Path} (h : p.isAbsolute = true) :
    p.components = .root :: p.steps.map stepOf := by
  rw [components_eq, h]
  rfl

/-- Without a full stop at the beginning, a relative path has its steps as components. -/
theorem withoutCurrent_components {p : Path} (h : p.isAbsolute = false) :
    withoutCurrent p.components = p.steps.map stepOf := by
  rw [components_eq, h, if_neg Bool.false_ne_true]
  cases p.startsAtCurrent with
  | true => rfl
  | false =>
      cases p.steps with
      | nil => rfl
      | cons piece pieces =>
          rw [if_neg Bool.false_ne_true, List.nil_append, List.map_cons]
          unfold stepOf
          split <;> rfl

/-- **The first pass** makes a path that begins at the root and has the steps of the current directory,
unless it begins at the root already, and then its own. -/
theorem absolute_eq_ok {cwd : Place} (hcwd : ∀ name ∈ cwd, Place.IsName name) {p : Path}
    (hp : p.text ≠ []) :
    ∃ q, p.absolute (.ok cwd) = .ok q ∧ q.isAbsolute = true
      ∧ q.steps = (if p.isAbsolute then [] else cwd) ++ p.steps := by
  have hextend := extend_steps (fun _ => of_mem_steps (p := p))
  -- the path before a slash at the end is put back
  have hstart : ∃ q : Path, (if p.startsWithTwoSlashes then
        (.ok ((⟨[slash, slash]⟩ : Path).extend p.components.tail) : Except Fault Path)
      else if p.isAbsolute then .ok ((⟨[]⟩ : Path).extend p.components)
      else .ok ((Place.path cwd).extend (withoutCurrent p.components))) = .ok q
      ∧ q.isAbsolute = true ∧ q.steps = (if p.isAbsolute then [] else cwd) ++ p.steps := by
    by_cases habsolute : p.isAbsolute = true
    · rw [components_of_isAbsolute habsolute, if_pos habsolute, if_pos habsolute]
      split
      · exact ⟨_, rfl, hextend ⟨[slash, slash]⟩⟩
      · exact ⟨_, rfl, hextend ⟨[slash]⟩⟩
    · have hrelative := Bool.eq_false_iff.2 habsolute
      have htwo : ¬ p.startsWithTwoSlashes = true :=
        fun htwo => habsolute (isAbsolute_of_two_slashes htwo)
      rw [if_neg htwo, if_neg habsolute, if_neg habsolute, withoutCurrent_components hrelative]
      obtain ⟨hbegins, hsteps⟩ := hextend (Place.path cwd)
      rw [Place.steps_path hcwd] at hsteps
      exact ⟨_, rfl, hbegins, hsteps⟩
  obtain ⟨q, hq, hbegins, hsteps⟩ := hstart
  obtain ⟨hbegins', hsteps'⟩ := join_nil_steps q
  refine ⟨if p.text.getLast? = some slash then q.join ⟨[]⟩ else q, ?_, ?_, ?_⟩
  · unfold absolute
    rw [if_neg (by simpa using hp)]
    exact congrArg (Except.map _) hq
  · split
    · exact hbegins'.trans hbegins
    · exact hbegins
  · split
    · exact hsteps'.trans hsteps
    · exact hsteps

/-- **The second pass**, from the spelling of a place on: what is folded is the spelling of the place
that the steps lead to. -/
theorem foldl_put {pieces : List Octets}
    (h : ∀ piece ∈ pieces, slash ∉ piece ∧ isStep piece = true) {place : Place}
    (hplace : ∀ name ∈ place, Place.IsName name) :
    (pieces.map stepOf).foldl put place.path
      = Place.path ((pieces.map stepOf).foldl Place.follow place) := by
  induction pieces generalizing place with
  | nil => rfl
  | cons piece pieces ih =>
      rw [List.forall_mem_cons] at h
      obtain ⟨⟨hslash, hstep⟩, hrest⟩ := h
      rw [List.map_cons, List.foldl_cons, List.foldl_cons]
      unfold stepOf
      split
      · -- up, or staying at the root
        have hup : ∀ name ∈ List.dropLast place, Place.IsName name :=
          fun name hname => hplace name (List.dropLast_subset place hname)
        rw [show put place.path .parent = Place.path (List.dropLast place) from
          Place.parent?_path hplace]
        exact ih hrest hup
      · next hparent =>
        have hname : Place.IsName piece := by
          simp only [isStep, Bool.and_eq_true, bne_iff_ne] at hstep
          exact ⟨hstep.1, hslash, hstep.2, hparent⟩
        have hdown : ∀ name ∈ place ++ [piece], Place.IsName name := by
          rw [List.forall_mem_append, List.forall_mem_singleton]
          exact ⟨hplace, hname⟩
        rw [show put place.path (.normal piece) = Place.path (place ++ [piece]) from
          Place.join_path hplace hname]
        exact ih hrest hdown

theorem fold_eq {p : Path} (h : p.isAbsolute = true) : p.fold = (Place.resolve [] p).path := by
  rw [fold, components_eq, h, Place.resolve_eq, h]
  exact foldl_put (fun _ => of_mem_steps) fun _ hname => absurd hname List.not_mem_nil

/-- A path from the root with the steps of a place and then of a relative path leads where that one leads
from the place. -/
theorem resolve_of_steps {cwd : Place} (hcwd : ∀ name ∈ cwd, Place.IsName name) {p q : Path}
    (hbegins : q.isAbsolute = true)
    (hsteps : q.steps = (if p.isAbsolute then [] else cwd) ++ p.steps) :
    Place.resolve [] q = Place.resolve cwd p := by
  rw [Place.resolve_eq, hbegins, hsteps, List.map_append, List.foldl_append, Place.resolve_eq cwd]
  cases p.isAbsolute with
  | true => rfl
  | false =>
      have hnames : cwd.map stepOf = cwd.map .normal :=
        List.map_congr_left fun name hname => by simp [stepOf, (hcwd name hname).2.2.2]
      show ((p.steps.map stepOf).foldl Place.follow ((cwd.map stepOf).foldl Place.follow [])) = _
      rw [hnames, Place.foldl_follow_normal]
      rfl

/-- **Both passes come to the spelling of the place** that the path leads to. -/
theorem absoluteClean_eq_fold {cwd : Place} (hcwd : ∀ name ∈ cwd, Place.IsName name) (p : Path) :
    p.absoluteClean (.ok cwd) = (p.absolute (.ok cwd)).map fold := by
  by_cases hp : p.text = []
  · unfold absoluteClean absolute
    rw [hp]
    rfl
  obtain ⟨q, hq, hbegins, hsteps⟩ := absolute_eq_ok hcwd hp
  have hplace := resolve_of_steps hcwd hbegins hsteps
  have hclean : p.absoluteClean (.ok cwd) = .ok (Place.resolve cwd p).path :=
    absoluteClean_eq_ok.2 ⟨hp, .inr rfl, rfl⟩
  rw [hclean, hq]
  show _ = Except.ok (fold q)
  rw [fold_eq hbegins, hplace]

/-! ## Ways to respell a path -/

/-- **An idle stretch** of a path: a full stop, or a name and the way back up. -/
inductive Idle : Octets → Prop
  | current : Idle currentName
  | back {name : Octets} (isName : Place.IsName name) : Idle (name ++ slash :: parentName)

/-- **One change of spelling.** An idle stretch comes before a relative path, where a slash is, or at
the end; a slash is doubled, or comes at the end. Where the slash is the one that a path begins with,
the stretch comes after the root. -/
inductive Respelling : Path → Path → Prop
  | before {idle text : Octets} (isIdle : Idle idle) (ne : text ≠ [])
      (relative : (⟨text⟩ : Path).isAbsolute = false) :
    Respelling ⟨text⟩ ⟨idle ++ slash :: text⟩
  | between {idle before after : Octets} (isIdle : Idle idle) :
    Respelling ⟨before ++ slash :: after⟩ ⟨before ++ slash :: (idle ++ slash :: after)⟩
  | after {idle : Octets} {p : Path} (isIdle : Idle idle) (ne : p.text ≠ []) :
    Respelling p (p.join ⟨idle⟩)
  | doubled {before after : Octets} :
    Respelling ⟨before ++ slash :: after⟩ ⟨before ++ slash :: slash :: after⟩
  | trailing {text : Octets} (ne : text ≠ []) : Respelling ⟨text⟩ ⟨text ++ [slash]⟩

/-- Two paths that begin alike and lead to the same place from anywhere. -/
structure LeadsAlike (p q : Path) : Prop where
  text : p.text = [] ↔ q.text = []
  isAbsolute : p.isAbsolute = q.isAbsolute
  walk : ∀ here : Place, (p.steps.map stepOf).foldl Place.follow here
    = (q.steps.map stepOf).foldl Place.follow here

theorem Idle.ne_nil {idle : Octets} (h : Idle idle) : idle ≠ [] := by
  cases h with
  | current => decide
  | back isName => simp

theorem Idle.isAbsolute {idle : Octets} (h : Idle idle) : (⟨idle⟩ : Path).isAbsolute = false := by
  cases h with
  | current => rfl
  | back isName =>
      have hrelative := Place.isAbsolute_of_isName isName
      obtain ⟨hne, -⟩ := isName
      unfold Path.isAbsolute at hrelative ⊢
      rwa [show (_ ++ slash :: parentName : Octets).head? = _ from List.head?_append_of_ne_nil _ hne]

/-- An idle stretch leads back to where it begins. -/
theorem Idle.walk {idle : Octets} (h : Idle idle) (here : Place) :
    ((⟨idle⟩ : Path).steps.map stepOf).foldl Place.follow here = here := by
  cases h with
  | current => rfl
  | @back name isName =>
      have hsteps : (⟨name ++ slash :: parentName⟩ : Path).steps = [name, parentName] := by
        rw [steps_of_slash, steps_of_isStep isName.2.1 (by simp [isStep, isName.1, isName.2.2.1])]
        rfl
      rw [hsteps, List.map_cons, List.foldl_cons, stepOf, if_neg isName.2.2.2]
      show List.dropLast (here ++ [name]) = here
      exact List.dropLast_concat

/-- A path with an idle stretch where a slash is. -/
theorem steps_between (before idle after : Octets) :
    (⟨before ++ slash :: (idle ++ slash :: after)⟩ : Path).steps
      = (⟨before⟩ : Path).steps ++ ((⟨idle⟩ : Path).steps ++ (⟨after⟩ : Path).steps) := by
  rw [steps_of_slash, steps_of_slash]

/-- What a path begins with is decided before its first slash. -/
theorem isAbsolute_of_slash (before after after' : Octets) :
    (⟨before ++ slash :: after⟩ : Path).isAbsolute
      = (⟨before ++ slash :: after'⟩ : Path).isAbsolute := by
  cases before with
  | nil => rfl
  | cons b rest => rfl

/-- **One change of spelling** leads to the same place. -/
theorem Respelling.leadsAlike {p q : Path} (h : Respelling p q) : LeadsAlike p q := by
  cases h with
  | @before idle text isIdle ne relative =>
      refine ⟨by simp [ne, isIdle.ne_nil], ?_, fun here => ?_⟩
      · have hidle := isIdle.isAbsolute
        unfold Path.isAbsolute at hidle relative ⊢
        rw [relative, List.head?_append_of_ne_nil _ isIdle.ne_nil, hidle]
      · rw [steps_of_slash, List.map_append, List.foldl_append, isIdle.walk]
  | @between idle before after isIdle =>
      refine ⟨by simp, isAbsolute_of_slash _ _ _, fun here => ?_⟩
      rw [steps_between, steps_of_slash, List.map_append, List.map_append, List.map_append,
        List.foldl_append, List.foldl_append, List.foldl_append, isIdle.walk]
  | @after idle _ isIdle ne =>
      refine ⟨iff_of_false ne (text_join_ne_nil p isIdle.isAbsolute isIdle.ne_nil),
        (isAbsolute_join p _ isIdle.isAbsolute).symm, fun here => ?_⟩
      rw [steps_join p _ isIdle.isAbsolute, List.map_append, List.foldl_append, isIdle.walk]
  | @doubled before after =>
      refine ⟨by simp, isAbsolute_of_slash _ _ _, fun here => ?_⟩
      rw [show slash :: slash :: after = slash :: ([] ++ slash :: after) from rfl, steps_between,
        steps_of_slash]
      rfl
  | @trailing text ne =>
      refine ⟨by simp [ne], ?_, fun here => ?_⟩
      · unfold Path.isAbsolute
        rw [List.head?_append_of_ne_nil _ ne]
      · rw [steps_of_slash, show (⟨[]⟩ : Path).steps = [] from rfl, List.append_nil]

/-- **Any number of changes**, made or taken back, lead to the same place. -/
theorem leadsAlike_of_eqvGen {p q : Path} (h : Relation.EqvGen Respelling p q) :
    LeadsAlike p q := by
  induction h with
  | rel p q hstep => exact hstep.leadsAlike
  | refl p => exact ⟨Iff.rfl, rfl, fun _ => rfl⟩
  | symm p q _ ih => exact ⟨ih.text.symm, ih.isAbsolute.symm, fun here => (ih.walk here).symm⟩
  | trans p q r _ _ ih ih' =>
      exact ⟨ih.text.trans ih'.text, ih.isAbsolute.trans ih'.isAbsolute,
        fun here => (ih.walk here).trans (ih'.walk here)⟩

theorem LeadsAlike.resolve {p q : Path} (h : LeadsAlike p q) (here : Place) :
    Place.resolve here p = Place.resolve here q := by
  rw [Place.resolve_eq, Place.resolve_eq, h.isAbsolute, h.walk]

theorem LeadsAlike.absoluteClean {p q : Path} (h : LeadsAlike p q) (cwd : Except Fault Place) :
    p.absoluteClean cwd = q.absoluteClean cwd := by
  have hempty : p.text.isEmpty = q.text.isEmpty := by
    rw [Bool.eq_iff_iff, List.isEmpty_iff, List.isEmpty_iff]
    exact h.text
  unfold Path.absoluteClean
  rw [hempty, h.isAbsolute, h.resolve]
  simp only [h.resolve]

end Path

/-! ## Attaching either spelling -/

namespace Attachment

open Session

variable (runner : Runner) (embedder : Embedder) (archive? : Option Archive)

/-- Attaching another spelling of a bitcode path does and reports the same. -/
theorem run_attach_of_leadsAlike {p q : Path} (h : p.LeadsAlike q) (object : Path) (s : Session) :
    let first := (attach runner embedder archive? ⟨p, object⟩).run s
    let second := (attach runner embedder archive? ⟨q, object⟩).run s
    second.1 = first.1 ∧ second.2.host = first.2.host ∧ second.2.issued = first.2.issued := by
  intro first second
  show ((attach runner embedder archive? ⟨q, object⟩).run s).1 = _ ∧ _
  unfold first second attach
  by_cases hobject : object.isObject = true
  · rw [if_pos hobject, if_pos hobject, run_bind, run_get, run_bind, run_get]
    simp only
    rw [h.absoluteClean]
    -- where there is no clean path, only the log tells the two apart
    cases q.absoluteClean s.host.currentPlace with
    | error fault => simp only [run_bind, run_say, run_pure, and_self]
    | ok clean => exact ⟨rfl, rfl, rfl⟩
  · rw [if_neg hobject, if_neg hobject]
    exact ⟨rfl, rfl, rfl⟩

/-- Two attempts on spellings of one bitcode path have the same clean path, so they hand the same
payload over and store under the same entry. -/
theorem attempts_of_leadsAlike {p q object object' : Path} (h : p.LeadsAlike q) {s s' : Session}
    (hplace : s'.host.currentPlace = s.host.currentPlace) {t t' : Attempt}
    (attempt : IsAttempt runner embedder archive? ⟨p, object⟩ s t)
    (attempt' : IsAttempt runner embedder archive? ⟨q, object'⟩ s' t') :
    t'.bitcode = t.bitcode
    ∧ t'.handed.contentAt? t'.payload = t.handed.contentAt? t.payload
    ∧ ∀ entry entry', t.stored = some entry → t'.stored = some entry' → entry' = entry := by
  have hbitcode : t'.bitcode = t.bitcode := by
    have hclean := attempt'.clean
    rw [hplace, ← h.absoluteClean, attempt.clean] at hclean
    exact (Except.ok.inj hclean).symm
  refine ⟨hbitcode, ?_, fun entry entry' hentry hentry' => ?_⟩
  · rw [(writePayload_ok attempt.write).2, (writePayload_ok attempt'.write).2, hbitcode]
  · obtain ⟨a, harchive, rfl, -⟩ := (attempt.stored_iff entry).1 hentry
    obtain ⟨a', harchive', rfl, -⟩ := (attempt'.stored_iff entry').1 hentry'
    rw [harchive] at harchive'
    cases harchive'
    rw [hbitcode]

end Attachment

/-- **One location, one spelling.** Under a current directory of proper names, every path that is not
empty is cleaned, in one go as in two passes, to the spelling of the place that it leads to from there:
a slash, and then proper names with slashes between them. This is cleaned to itself from anywhere, and
an absolute path is cleaned to it from anywhere. Every other spelling of the path is cleaned to it as
well, so that attaching that does and reports the same, and whenever either is attached, the payload
and the entry are the same. -/
theorem one_spelling {cwd : Place} (hcwd : ∀ name ∈ cwd, Place.IsName name) {p : Path}
    (hp : p.text ≠ []) :
    ∃ place : Place, p.absoluteClean (.ok cwd) = .ok place.path
      ∧ (p.absolute (.ok cwd)).map Path.fold = .ok place.path
      ∧ place = Place.resolve [] ((Place.path cwd).join p)
      ∧ (∀ name ∈ place, Place.IsName name)
      ∧ place.path.text = slash :: Separated.join [slash] place
      ∧ place.path.components = .root :: place.map .normal
      ∧ (place ≠ [] → place.path.text.getLast? ≠ some slash)
      ∧ (∀ cwd', place.path.absoluteClean cwd' = .ok place.path)
      ∧ (p.isAbsolute = true → ∀ cwd', p.absoluteClean cwd' = .ok place.path)
      ∧ ∀ q, Relation.EqvGen Path.Respelling p q →
        q.absoluteClean (.ok cwd) = .ok place.path
        ∧ ∀ (runner : Runner) (embedder : Embedder) (archive? : Option Archive),
          (∀ object s,
            let first := (Attachment.attach runner embedder archive? ⟨p, object⟩).run s
            let second := (Attachment.attach runner embedder archive? ⟨q, object⟩).run s
            second.1 = first.1 ∧ second.2.host = first.2.host ∧ second.2.issued = first.2.issued)
          ∧ ∀ object object' s s' t t', s'.host.currentPlace = s.host.currentPlace →
            Attachment.IsAttempt runner embedder archive? ⟨p, object⟩ s t →
            Attachment.IsAttempt runner embedder archive? ⟨q, object'⟩ s' t' →
            t'.bitcode = t.bitcode
            ∧ t'.handed.contentAt? t'.payload = t.handed.contentAt? t.payload
            ∧ ∀ entry entry', t.stored = some entry → t'.stored = some entry' → entry' = entry := by
  have hclean : p.absoluteClean (.ok cwd) = .ok (Place.resolve cwd p).path :=
    Path.absoluteClean_eq_ok.2 ⟨hp, .inr rfl, rfl⟩
  have hnames := Place.isName_of_mem_resolve hcwd p
  refine ⟨Place.resolve cwd p, hclean, ?_, ?_, hnames, rfl, Place.components_path hnames,
    Place.getLast?_path hnames, ?_, ?_, ?_⟩
  · rw [← Path.absoluteClean_eq_fold hcwd, hclean]
  · by_cases habsolute : p.isAbsolute = true
    · have hjoin : (Place.path cwd).join p = p := by rw [Path.join, if_pos habsolute]
      rw [hjoin, Place.resolve_eq, Place.resolve_eq [], habsolute]
      rfl
    · rw [Place.resolve_join _ _ _ (Bool.eq_false_iff.2 habsolute), Place.resolve_path hcwd]
  · intro cwd'
    refine Path.absoluteClean_eq_ok.2 ⟨List.cons_ne_nil _ _, .inl rfl, ?_⟩
    rw [Place.resolve_path hnames]
  · intro habsolute cwd'
    refine Path.absoluteClean_eq_ok.2 ⟨hp, .inl habsolute, ?_⟩
    rw [Place.resolve_eq, Place.resolve_eq (cwd'.toOption.getD []), habsolute]
    rfl
  · intro q hspelling
    have halike := Path.leadsAlike_of_eqvGen hspelling
    refine ⟨by rw [← halike.absoluteClean, hclean], fun runner embedder archive? => ⟨?_, ?_⟩⟩
    · exact Attachment.run_attach_of_leadsAlike runner embedder archive? halike
    · intro object object' s s' t t' hplace attempt attempt'
      exact Attachment.attempts_of_leadsAlike runner embedder archive? halike hplace attempt attempt'

/-- A path by way of a directory beside it, with a slash at the end, is another spelling. -/
theorem one_spelling_by_way_of_sibling :
    let cwd : Place := [Octets.ofString "work"]
    ∃ place : Place, (Path.ofString ".a.o.bc").absoluteClean (.ok cwd) = .ok place.path
      ∧ (Path.ofString "sub/../.a.o.bc/").absoluteClean (.ok cwd) = .ok place.path := by
  intro cwd
  have hfirst : Path.Respelling (.ofString ".a.o.bc")
      ⟨(Octets.ofString "sub" ++ slash :: Path.parentName) ++ slash :: Octets.ofString ".a.o.bc"⟩ :=
    .before (.back (by decide +kernel)) (by decide +kernel) (by decide +kernel)
  have htext : (⟨((Octets.ofString "sub" ++ slash :: Path.parentName)
      ++ slash :: Octets.ofString ".a.o.bc") ++ [slash]⟩ : Path) = .ofString "sub/../.a.o.bc/" := by
    decide +kernel
  have hsecond : Path.Respelling
      ⟨(Octets.ofString "sub" ++ slash :: Path.parentName) ++ slash :: Octets.ofString ".a.o.bc"⟩
      (.ofString "sub/../.a.o.bc/") := by
    rw [← htext]
    exact .trailing (by decide +kernel)
  have hcwd : ∀ name ∈ cwd, Place.IsName name := by decide +kernel
  have hne : (Path.ofString ".a.o.bc").text ≠ [] := by decide +kernel
  obtain ⟨place, hclean, -, -, -, -, -, -, -, -, hspellings⟩ := one_spelling hcwd hne
  exact ⟨place, hclean, (hspellings _ (.trans _ _ _ (.rel _ _ hfirst) (.rel _ _ hsecond))).1⟩

end TwinBuild
