import TwinBuild.Proofs.FileNames
import TwinBuild.Proofs.Trees

/-!
# What operations do to a host

Each operation either fails and leaves the host as it is, or changes the tree at the place that its
path leads to. A directory that is there stays there, and so does the current directory.

Main statements: for each operation what it has done if it succeeds, and `makeDirectories_grows`:
there are new directories, and nothing else has changed.
-/

namespace TwinBuild

/-- Doing one thing after the other. -/
theorem except_bind_eq_ok {ε α β : Type} {x : Except ε α} {f : α → Except ε β} {b : β} :
    (x >>= f) = .ok b ↔ ∃ a, x = .ok a ∧ f a = .ok b := by
  cases x with
  | error e => simp [bind, Except.bind]
  | ok a => simp [bind, Except.bind]

namespace Place

theorem foldl_follow_normal (here place : Place) :
    (place.map Component.normal).foldl follow here = here ++ place := by
  induction place generalizing here with
  | nil => exact (List.append_nil here).symm
  | cons name place ih =>
      rw [List.map_cons, List.foldl_cons, ih]
      exact List.append_assoc here [name] place

/-- The spelling of a place leads to it. -/
theorem resolve_path {place : Place} (h : ∀ name ∈ place, IsName name) (here : Place) :
    resolve here place.path = place := by
  rw [resolve, components_path h, List.foldl_cons, foldl_follow_normal]
  rfl

end Place

namespace Host

open Files

/-- The place that a path leads to. -/
def placeOf (h : Host) (p : Path) : Place := Place.resolve h.cwd.place p

/-- What the tree holds where a path leads to. -/
def nodeAt (h : Host) (p : Path) : Option Node := h.files.get? (h.placeOf p)

/-- The content of the file where a path leads. -/
def contentOf? (h : Host) (p : Path) : Option Octets :=
  match h.nodeAt p with
  | some (.file f) => some f.content
  | _ => none

theorem contentOf?_of_file {h : Host} {p : Path} {f : File} (hfile : h.nodeAt p = some (.file f)) :
    h.contentOf? p = some f.content := by
  unfold contentOf?
  rw [hfile]

/-- **A host in order**: the tree has no gaps, and the current directory is one of it with proper
names. -/
structure Sound (h : Host) : Prop where
  grounded : h.files.Grounded
  current : h.files.HasCurrent h.cwd
  names : ∀ name ∈ h.cwd.place, Place.IsName name

/-- **What every operation on files keeps**: the current directory, the order of the host, and
every directory. -/
structure Keeps (h h' : Host) : Prop where
  cwd : h'.cwd = h.cwd
  sound : h.Sound → h'.Sound
  directory : ∀ q, h.files.get? q = some .directory → h'.files.get? q = some .directory

variable {h h' h'' : Host} {p : Path}

theorem Keeps.refl (h : Host) : h.Keeps h := ⟨rfl, id, fun _ => id⟩

theorem Keeps.trans (hfirst : h.Keeps h') (hsecond : h'.Keeps h'') : h.Keeps h'' :=
  ⟨hsecond.cwd.trans hfirst.cwd, fun hsound => hsecond.sound (hfirst.sound hsound),
    fun q hq => hsecond.directory q (hfirst.directory q hq)⟩

theorem Keeps.placeOf (hkeeps : h.Keeps h') (p : Path) : h'.placeOf p = h.placeOf p := by
  unfold Host.placeOf
  rw [hkeeps.cwd]

/-- Putting a node below a directory, where there is none yet. -/
theorem keeps_put {place : Place} (node : Node)
    (habove : h.Sound → h.files.get? place.dropLast = some .directory)
    (hplace : h.files.get? place ≠ some .directory) :
    h.Keeps { h with files := h.files.put place node } := by
  have hdirectory : ∀ q, h.files.get? q = some .directory →
      (h.files.put place node).get? q = some .directory := by
    intro q hq
    rw [get?_put _ (ne_nil_of_get? hplace), if_neg]
    · exact hq
    · rintro rfl
      exact hplace hq
  refine ⟨rfl, fun hsound => ?_, hdirectory⟩
  exact ⟨hsound.grounded.put node (habove hsound) hplace, hdirectory _ hsound.current,
    hsound.names⟩

/-! ## Looking up -/

theorem lookup_eq_ok {place : Place} {node : Option Node}
    (hlookup : h.lookup p = .ok (place, node)) :
    isName p = true ∧ h.files.locate h.cwd p = .ok (place, node)
      ∧ ∀ f, node = some (.file f) → wantsDirectory p = false := by
  unfold lookup at hlookup
  split at hlookup
  · next hname =>
    refine ⟨hname, ?_⟩
    cases hfound : h.files.lookup h.cwd p with
    | error number =>
        rw [hfound] at hlookup
        cases hlookup
    | ok found =>
        rw [hfound] at hlookup
        cases Except.ok.inj hlookup
        unfold Files.lookup at hfound
        split at hfound
        · next hlocate =>
          split at hfound
          · cases hfound
          · next hwants =>
            cases hfound
            exact ⟨hlocate, fun _ _ => Bool.eq_false_iff.2 hwants⟩
        · next hfile =>
          refine ⟨hfound, ?_⟩
          rintro f rfl
          exact absurd hfound (hfile place f)
  · cases hlookup

/-- A path is looked up where it leads to. -/
theorem lookup_cases {place : Place} {node : Option Node}
    (hlookup : h.lookup p = .ok (place, node)) :
    place = h.placeOf p ∧ (node = h.nodeAt p ∨ node = some .directory) := by
  obtain ⟨-, hlocate, -⟩ := lookup_eq_ok hlookup
  obtain ⟨rfl, hnode⟩ := locate_eq_ok hlocate
  exact ⟨rfl, hnode⟩

theorem nodeAt_of_lookup {place : Place} {node : Option Node}
    (hlookup : h.lookup p = .ok (place, node)) (hnode : node ≠ some .directory) :
    place = h.placeOf p ∧ h.nodeAt p = node := by
  obtain ⟨hplace, hcases⟩ := lookup_cases hlookup
  exact ⟨hplace, (hcases.resolve_right hnode).symm⟩

/-- A path that does not insist on a directory is looked up as it is located. -/
theorem lookup_of_locate {place : Place} {node : Option Node} (hname : isName p = true)
    (hwants : wantsDirectory p = false) (hlocate : h.files.locate h.cwd p = .ok (place, node)) :
    h.lookup p = .ok (place, node) := by
  unfold Host.lookup
  rw [if_pos hname, Files.lookup, hlocate]
  cases node with
  | none => rfl
  | some node =>
      cases node with
      | directory => rfl
      | file f =>
          simp only
          rw [hwants]
          rfl

/-- **A path is looked up again** where the directories are still directories. -/
theorem Keeps.lookup (hkeeps : h.Keeps h') {place : Place} {node : Option Node}
    (hlookup : h.lookup p = .ok (place, node)) (hnode : node ≠ some .directory)
    (hwants : wantsDirectory p = false) : h'.lookup p = .ok (place, h'.nodeAt p) := by
  obtain ⟨hname, hlocate, -⟩ := lookup_eq_ok hlookup
  have hplace := (nodeAt_of_lookup hlookup hnode).1
  have hagain := locate_of_directories hkeeps.directory hnode hlocate
  have hthere : h'.files.get? place = h'.nodeAt p := by
    rw [nodeAt, hkeeps.placeOf, hplace]
  rw [hthere, ← hkeeps.cwd] at hagain
  exact lookup_of_locate hname hwants hagain

theorem above_of_lookup (hsound : h.Sound) {place : Place} {node : Option Node}
    (hlookup : h.lookup p = .ok (place, node)) (hnode : node ≠ some .directory) :
    h.files.get? place.dropLast = some .directory := by
  cases node with
  | none =>
      obtain ⟨-, hlocate, -⟩ := lookup_eq_ok hlookup
      exact (hsound.grounded.above_of_locate hsound.current hlocate).2
  | some node =>
      obtain ⟨rfl, hthere⟩ := nodeAt_of_lookup hlookup hnode
      exact hsound.grounded _ _ hthere

/-! ## Operations -/

theorem attempt_ok {α : Type} {step : Host → Except Fault (α × Host)} {a : α}
    (hrun : (attempt step).run.run h = (.ok a, h')) : step h = .ok (a, h') := by
  rw [run_attempt] at hrun
  split at hrun
  · next hstep => rw [hstep, (Prod.mk.inj hrun).2, Except.ok.inj (Prod.mk.inj hrun).1]
  · cases hrun

theorem attempt_error {α : Type} {step : Host → Except Fault (α × Host)} {fault : Fault}
    (hrun : (attempt step).run.run h = (.error fault, h')) : h' = h := by
  rw [run_attempt] at hrun
  split at hrun
  · cases hrun
  · exact (Prod.mk.inj hrun).2.symm

theorem openFile_ok {node : Node} (hrun : (openFile p).run.run h = (.ok node, h')) :
    h' = h ∧ (h.nodeAt p = some node ∨ node = .directory) := by
  have hstep := attempt_ok hrun
  simp only [except_bind_eq_ok] at hstep
  obtain ⟨-, -, ⟨place, _ | found⟩, hlookup, hstep⟩ := hstep
  · cases hstep
  · cases hstep
    refine ⟨rfl, ?_⟩
    rcases (lookup_cases hlookup).2 with hnode | hnode
    · exact .inl hnode.symm
    · exact .inr (Option.some.inj hnode)

theorem readNode_ok {node : Node} {content : Octets}
    (hrun : (readNode p node).run.run h = (.ok content, h')) :
    h' = h ∧ ∃ f, node = .file f ∧ f.content = content := by
  have hstep := attempt_ok hrun
  simp only [except_bind_eq_ok] at hstep
  obtain ⟨-, -, hstep⟩ := hstep
  cases node with
  | directory => cases hstep
  | file f =>
      cases hstep
      exact ⟨rfl, f, rfl, rfl⟩

theorem syncFile_ok (hrun : (syncFile p).run.run h = (.ok (), h')) : h' = h := by
  have hstep := attempt_ok hrun
  simp only [except_bind_eq_ok] at hstep
  obtain ⟨-, -, hstep⟩ := hstep
  cases hstep
  rfl

theorem createFile_ok (hrun : (createFile p).run.run h = (.ok (), h')) :
    h.lookup p = .ok (h.placeOf p, none) ∧ h.nodeAt p = none
      ∧ h' = { h with files := h.files.put (h.placeOf p) (.file { content := [] }) } := by
  have hstep := attempt_ok hrun
  simp only [except_bind_eq_ok] at hstep
  obtain ⟨-, -, ⟨place, _ | found⟩, hlookup, hstep⟩ := hstep
  · obtain ⟨rfl, hnone⟩ := nodeAt_of_lookup hlookup (by simp)
    cases hstep
    exact ⟨hlookup, hnone, rfl⟩
  · cases hstep

/-- Writing changes a file, or makes one. -/
theorem writeFile_ok {content : Octets}
    (hrun : (writeFile p content).run.run h = (.ok (), h')) :
    ∃ node, h.lookup p = .ok (h.placeOf p, node) ∧ node ≠ some .directory
      ∧ wantsDirectory p = false
      ∧ ∃ f : File, f.content = content
        ∧ h' = { h with files := h.files.put (h.placeOf p) (.file f) } := by
  have hstep := attempt_ok hrun
  simp only [except_bind_eq_ok] at hstep
  obtain ⟨-, -, ⟨place, _ | _ | f⟩, hlookup, hstep⟩ := hstep
  · obtain ⟨rfl, -⟩ := nodeAt_of_lookup hlookup (by simp)
    simp only at hstep
    split at hstep
    · cases hstep
    · next hwants =>
      cases hstep
      exact ⟨_, hlookup, by simp, Bool.eq_false_iff.2 hwants, _, rfl, rfl⟩
  · cases hstep
  · obtain ⟨rfl, -⟩ := nodeAt_of_lookup hlookup (by simp)
    cases hstep
    exact ⟨_, hlookup, by simp, (lookup_eq_ok hlookup).2.2 f rfl, _, rfl, rfl⟩

theorem removeFile_ok (hrun : (removeFile p).run.run h = (.ok (), h')) :
    (∃ f, h.nodeAt p = some (.file f))
      ∧ h' = { h with files := h.files.remove (h.placeOf p) } := by
  have hstep := attempt_ok hrun
  simp only [except_bind_eq_ok] at hstep
  obtain ⟨-, -, ⟨place, _ | _ | f⟩, hlookup, hstep⟩ := hstep
  · cases hstep
  · cases hstep
  · obtain ⟨rfl, hfile⟩ := nodeAt_of_lookup hlookup (by simp)
    cases hstep
    exact ⟨⟨f, hfile⟩, rfl⟩

/-- A file that can be looked up can be taken away, unless the host refuses. -/
theorem removeFile_of_lookup {f : File} (hpermit : h.refuses (.removeFile p) = none)
    (hlookup : h.lookup p = .ok (h.placeOf p, some (.file f))) :
    (removeFile p).run.run h = (.ok (), { h with files := h.files.remove (h.placeOf p) }) := by
  unfold removeFile
  rw [run_attempt]
  simp [permit, hpermit, hlookup, bind, Except.bind, pure, Except.pure]

/-- Moving a file puts it where no directory is, and takes it away from where it was. -/
theorem renameFile_ok {source target : Path}
    (hrun : (renameFile source target).run.run h = (.ok (), h')) :
    ∃ f, h.nodeAt source = some (.file f)
      ∧ (∃ node, h.lookup target = .ok (h.placeOf target, node) ∧ node ≠ some .directory)
      ∧ ((h.placeOf source = h.placeOf target ∧ h' = h)
        ∨ (h.placeOf source ≠ h.placeOf target
          ∧ h' = { h with files :=
              (h.files.remove (h.placeOf source)).put (h.placeOf target) (.file f) })) := by
  have hstep := attempt_ok hrun
  simp only [except_bind_eq_ok] at hstep
  obtain ⟨-, -, ⟨place, found⟩, hsource, ⟨goal, node⟩, htarget, hstep⟩ := hstep
  have hmoved : ∃ f, found = some (.file f) ∧ node ≠ some .directory := by
    rcases found with _ | _ | f
    · cases hstep
    · cases hstep
    · rcases node with _ | _ | g
      · exact ⟨f, rfl, by simp⟩
      · cases hstep
      · exact ⟨f, rfl, by simp⟩
  obtain ⟨f, rfl, hnode⟩ := hmoved
  obtain ⟨rfl, hfile⟩ := nodeAt_of_lookup hsource (by simp)
  obtain ⟨rfl, -⟩ := nodeAt_of_lookup htarget hnode
  refine ⟨f, hfile, ⟨node, htarget, hnode⟩, ?_⟩
  rcases node with _ | _ | g
  · simp only at hstep
    split at hstep
    · cases hstep
    split at hstep
    · next heq => cases hstep; exact .inl ⟨heq, rfl⟩
    · next hne => cases hstep; exact .inr ⟨hne, rfl⟩
  · exact absurd rfl hnode
  · simp only at hstep
    split at hstep
    · cases hstep
    split at hstep
    · next heq => cases hstep; exact .inl ⟨heq, rfl⟩
    · next hne => cases hstep; exact .inr ⟨hne, rfl⟩

/-! ### What they keep -/

theorem get?_files_put {place : Place} {node : Node} (hplace : h.files.get? place ≠ some .directory)
    (q : Place) :
    ({ h with files := h.files.put place node } : Host).files.get? q
      = if q = place then some node else h.files.get? q :=
  get?_put _ (ne_nil_of_get? hplace) _ _

/-- **Making a file** changes nothing else. -/
theorem createFile_makes (hrun : (createFile p).run.run h = (.ok (), h')) :
    h.Keeps h' ∧ ∀ q, h'.files.get? q
      = if q = h.placeOf p then some (.file { content := [] }) else h.files.get? q := by
  obtain ⟨hlookup, hnone, rfl⟩ := createFile_ok hrun
  have hplace : h.files.get? (h.placeOf p) ≠ some .directory := by
    rw [show h.files.get? (h.placeOf p) = none from hnone]
    simp
  exact ⟨keeps_put _ (fun hsound => above_of_lookup hsound hlookup (by simp)) hplace,
    get?_files_put hplace⟩

/-- **Writing a file** changes nothing else. -/
theorem writeFile_makes {content : Octets}
    (hrun : (writeFile p content).run.run h = (.ok (), h')) :
    h.Keeps h' ∧ ∃ f : File, f.content = content
      ∧ ∀ q, h'.files.get? q = if q = h.placeOf p then some (.file f) else h.files.get? q := by
  obtain ⟨node, hlookup, hnode, -, f, hcontent, rfl⟩ := writeFile_ok hrun
  have hplace : h.files.get? (h.placeOf p) ≠ some .directory := by
    rw [show h.files.get? (h.placeOf p) = node from (nodeAt_of_lookup hlookup hnode).2]
    exact hnode
  exact ⟨keeps_put _ (fun hsound => above_of_lookup hsound hlookup hnode) hplace, f, hcontent,
    get?_files_put hplace⟩

theorem keeps_remove_file {place : Place} {f : File}
    (hfile : h.files.get? place = some (.file f)) (hsound : h.Sound) :
    h.Keeps { h with files := h.files.remove place } := by
  have hdirectory : ∀ q, h.files.get? q = some .directory →
      (h.files.remove place).get? q = some .directory := by
    intro q hq
    rw [hsound.grounded.get?_remove_file hfile, if_neg]
    · exact hq
    · rintro rfl
      rw [hq] at hfile
      cases hfile
  exact ⟨rfl, fun hsound => ⟨hsound.grounded.remove_file hfile, hdirectory _ hsound.current,
    hsound.names⟩, hdirectory⟩

/-- **Taking a file away** changes nothing else. -/
theorem removeFile_makes (hsound : h.Sound) (hrun : (removeFile p).run.run h = (.ok (), h')) :
    h.Keeps h' ∧ (∃ f, h.nodeAt p = some (.file f))
      ∧ ∀ q, h'.files.get? q = if q = h.placeOf p then none else h.files.get? q := by
  obtain ⟨⟨f, hfile⟩, rfl⟩ := removeFile_ok hrun
  exact ⟨keeps_remove_file hfile hsound, ⟨f, hfile⟩, hsound.grounded.get?_remove_file hfile⟩

/-- **Moving a file** changes nothing but where it was and where it comes. -/
theorem renameFile_makes (hsound : h.Sound) {source target : Path}
    (hrun : (renameFile source target).run.run h = (.ok (), h')) :
    h.Keeps h' ∧ ∃ f, h.nodeAt source = some (.file f) ∧ h.nodeAt target ≠ some .directory
      ∧ ∀ q, h'.files.get? q
        = if q = h.placeOf target then some (.file f)
          else if q = h.placeOf source then none else h.files.get? q := by
  obtain ⟨f, hfile, ⟨node, hlookup, hnode⟩, hmoved⟩ := renameFile_ok hrun
  have htarget : h.nodeAt target ≠ some .directory := by
    rw [(nodeAt_of_lookup hlookup hnode).2]
    exact hnode
  rcases hmoved with ⟨hsame, rfl⟩ | ⟨hother, rfl⟩
  · refine ⟨Keeps.refl h', f, hfile, htarget, fun q => ?_⟩
    rw [← hsame]
    split
    · next hq => rw [hq]; exact hfile
    · rfl
  · -- first the file is gone from where it was, then it is put where it comes
    have hkeeps := keeps_remove_file hfile hsound
    have hremoved := hsound.grounded.get?_remove_file hfile
    have habove : (h.files.remove (h.placeOf source)).get? (h.placeOf target).dropLast
        = some .directory :=
      hkeeps.directory _ (above_of_lookup hsound hlookup hnode)
    have hplace : (h.files.remove (h.placeOf source)).get? (h.placeOf target)
        ≠ some .directory := by
      rw [hremoved, if_neg (Ne.symm hother)]
      exact htarget
    refine ⟨hkeeps.trans (keeps_put (.file f) (fun _ => habove) hplace), f, hfile, htarget, ?_⟩
    intro q
    rw [get?_put _ (ne_nil_of_get? hplace), hremoved]

/-! ## Making directories -/

/-- What a handler makes of a failure. -/
theorem run_tryCatch {ε α : Type} (act : ExceptT ε (StateM Host) α)
    (handle : ε → ExceptT ε (StateM Host) α) (h : Host) :
    (tryCatch act handle : ExceptT ε (StateM Host) α).run.run h
      = match act.run.run h with
        | (.ok a, after) => (.ok a, after)
        | (.error e, after) => (handle e).run.run after := by
  simp only [tryCatch, tryCatchThe, MonadExceptOf.tryCatch, ExceptT.tryCatch, ExceptT.run_mk,
    StateT.run_bind]
  change (act.run.run h >>= _) = _
  generalize act.run.run h = answer
  obtain ⟨result, after⟩ := answer
  cases result <;> rfl

end Host

/-- The places on the way of a path: where the beginnings of its steps lead. -/
def Place.OnWay (here : Place) (p : Path) (q : Place) : Prop :=
  ∃ steps, steps <+: p.steps
    ∧ q = (steps.map Path.stepOf).foldl Place.follow (if p.isAbsolute then [] else here)

theorem Place.onWay_resolve (here : Place) (p : Path) : OnWay here p (resolve here p) :=
  ⟨p.steps, List.prefix_refl _, resolve_eq here p⟩

/-- Where a path does not go up, its way leads down to where it leads. -/
theorem Place.OnWay.isPrefix {here q : Place} {p : Path} (hdown : Path.parentName ∉ p.steps)
    (hq : OnWay here p q) : q <+: resolve here p := by
  obtain ⟨steps, ⟨rest, hrest⟩, rfl⟩ := hq
  have hnames : rest.map Path.stepOf = rest.map .normal := by
    refine List.map_congr_left fun step hstep => if_neg ?_
    rintro rfl
    rw [← hrest] at hdown
    exact hdown (List.mem_append_right _ hstep)
  rw [resolve_eq, ← hrest, List.map_append, List.foldl_append, hnames, foldl_follow_normal]
  exact List.prefix_append _ _

/-- The parent of a path is on the way of it. -/
theorem Path.steps_parent {p above : Path} (h : p.parent? = some above) :
    above.steps <+: p.steps ∧ above.isAbsolute = p.isAbsolute := by
  unfold parent? at h
  split at h
  · next before hdrop =>
    obtain ⟨⟨rest, hpieces⟩, ⟨last, hfilter⟩, hend⟩ := dropLastStep_eq hdrop
    rw [filter_split_body] at hfilter
    have hsteps : p.steps ≠ [] := by
      rw [hfilter]
      simp
    obtain ⟨habove, habsolute⟩ := steps_of_pieces hsteps hpieces hend
    rw [← Option.some.inj h, habove, hfilter]
    exact ⟨List.prefix_append _ _, habsolute⟩
  · split at h
    · cases h
    next habsolute =>
    split at h
    · cases h
      exact ⟨List.nil_prefix, (Bool.eq_false_iff.2 habsolute).symm⟩
    · cases h

theorem Place.OnWay.of_parent {here q : Place} {p above : Path} (h : p.parent? = some above)
    (hq : OnWay here above q) : OnWay here p q := by
  obtain ⟨hsteps, habsolute⟩ := Path.steps_parent h
  obtain ⟨steps, hprefix, hplace⟩ := hq
  exact ⟨steps, hprefix.trans hsteps, by rw [hplace, habsolute]⟩

namespace Host

open Files

/-- A directory has been made on the way of a path, where nothing was. -/
structure Made (p : Path) (h h' : Host) (q : Place) : Prop where
  before : h.files.get? q = none
  after : h'.files.get? q = some .directory
  onWay : Place.OnWay h.cwd.place p q

/-- **A place is spared**: it is left alone, but that a directory on the way of a path can have been
made there. -/
def Spares (p : Path) (h h' : Host) (q : Place) : Prop :=
  h'.files.get? q = h.files.get? q ∨ Made p h h' q

/-- A place that is spared keeps its content: a directory has no more than nothing has. -/
theorem Spares.contentOf? {p target : Path} {h h' : Host}
    (hspares : Spares p h h' (h.placeOf target)) (hplace : h'.placeOf target = h.placeOf target) :
    h'.contentOf? target = h.contentOf? target := by
  unfold Host.contentOf? nodeAt
  rw [hplace]
  rcases hspares with hsame | ⟨hnone, hdirectory, -⟩
  · rw [hsame]
  · rw [hnone, hdirectory]

/-- **A tree that has grown on the way of a path**: it has new directories there, and nothing else
has changed. -/
structure Grows (p : Path) (h h' : Host) : Prop extends Keeps h h' where
  spares : ∀ q, Spares p h h' q

theorem Grows.refl (p : Path) (h : Host) : Grows p h h := ⟨Keeps.refl h, fun _ => .inl rfl⟩

theorem Grows.trans {h h' h'' : Host} (hfirst : Grows p h h') (hsecond : Grows p h' h'') :
    Grows p h h'' := by
  refine ⟨hfirst.toKeeps.trans hsecond.toKeeps, fun q => ?_⟩
  rcases hsecond.spares q with hsame | ⟨hnone, hdirectory, hway⟩
  · unfold Spares
    rcases hfirst.spares q with hbefore | ⟨hnone, hdirectory, hway⟩
    · exact .inl (hsame.trans hbefore)
    · exact .inr ⟨hnone, hsame.trans hdirectory, hway⟩
  · rw [hfirst.cwd] at hway
    rcases hfirst.spares q with hsame | ⟨-, hbefore, -⟩
    · exact .inr ⟨hsame.symm.trans hnone, hdirectory, hway⟩
    · rw [hbefore] at hnone
      cases hnone

theorem Grows.of_parent {h h' : Host} {above : Path} (habove : p.parent? = some above)
    (hgrows : Grows above h h') : Grows p h h' := by
  refine ⟨hgrows.toKeeps, fun q => ?_⟩
  rcases hgrows.spares q with hsame | ⟨hnone, hdirectory, hway⟩
  · exact .inl hsame
  · exact .inr ⟨hnone, hdirectory, hway.of_parent habove⟩

/-- Making a directory puts it where nothing was. -/
theorem makeDirectory_ok {p : Path} {h h' : Host}
    (hrun : (makeDirectory p).run.run h = (.ok (), h')) :
    isName p = true ∧ h.files.locate h.cwd p = .ok (h.placeOf p, none) ∧ h.nodeAt p = none
      ∧ h' = { h with files := h.files.put (h.placeOf p) .directory } := by
  have hstep := attempt_ok hrun
  simp only [except_bind_eq_ok] at hstep
  obtain ⟨-, -, hstep⟩ := hstep
  split at hstep
  · next hname =>
    simp only [except_bind_eq_ok] at hstep
    obtain ⟨⟨place, _ | found⟩, hlocate, hstep⟩ := hstep
    · cases hstep
      have hlocate : h.files.locate h.cwd p = .ok (place, none) := by
        cases hfound : h.files.locate h.cwd p with
        | error number =>
            rw [hfound] at hlocate
            cases hlocate
        | ok found =>
            rw [hfound] at hlocate
            exact congrArg Except.ok (Except.ok.inj hlocate)
      obtain ⟨rfl, hcases⟩ := Files.locate_eq_ok hlocate
      exact ⟨hname, hlocate, (hcases.resolve_right (by simp)).symm, rfl⟩
    · cases hstep
  · cases hstep

/-- **Making a directory** changes nothing else. -/
theorem makeDirectory_makes {p : Path} {h h' : Host}
    (hrun : (makeDirectory p).run.run h = (.ok (), h')) :
    h.Keeps h' ∧ ∀ q, h'.files.get? q
      = if q = h.placeOf p then some .directory else h.files.get? q := by
  obtain ⟨-, hlocate, hnone, rfl⟩ := makeDirectory_ok hrun
  have hplace : h.files.get? (h.placeOf p) ≠ some .directory := by
    rw [show h.files.get? (h.placeOf p) = none from hnone]
    simp
  refine ⟨keeps_put _ (fun hsound => ?_) hplace, get?_files_put hplace⟩
  exact (hsound.grounded.above_of_locate hsound.current hlocate).2

theorem makeDirectory_grows {p : Path} {result : Except Fault Unit} {h h' : Host}
    (hrun : (makeDirectory p).run.run h = (result, h')) : Grows p h h' := by
  cases result with
  | error fault =>
      rw [attempt_error hrun]
      exact Grows.refl p h
  | ok _ =>
      obtain ⟨hkeeps, hmade⟩ := makeDirectory_makes hrun
      obtain ⟨-, -, hnone, -⟩ := makeDirectory_ok hrun
      refine ⟨hkeeps, fun q => ?_⟩
      by_cases hq : q = h.placeOf p
      · subst hq
        exact .inr ⟨hnone, by rw [hmade, if_pos rfl], Place.onWay_resolve _ p⟩
      · exact .inl (by rw [hmade, if_neg hq])

/-- Asking whether a path is a directory changes nothing. -/
theorem run_unless_directory {p : Path} {fault : Fault} {result : Except Fault Unit} {h h' : Host}
    (hrun : (do if (← get).isDirectory p then pure () else throw fault : HostAct Unit).run.run h
      = (result, h')) : h' = h := by
  have hsame : ((if h.isDirectory p then (pure () : HostAct Unit) else throw fault).run.run h).2
      = h := by
    split <;> rfl
  exact (congrArg Prod.snd hrun).symm.trans hsame

theorem makeDirectoriesFrom_grows (fuel : Nat) (p : Path) {result : Except Fault Unit}
    {h h' : Host} (hrun : (makeDirectoriesFrom fuel p).run.run h = (result, h')) :
    Grows p h h' := by
  induction fuel generalizing p h h' result with
  | zero =>
      cases hrun
      exact Grows.refl p h
  | succ fuel ih =>
      unfold makeDirectoriesFrom at hrun
      split at hrun
      · cases hrun
        exact Grows.refl p h
      rw [run_tryCatch] at hrun
      generalize hmake : (makeDirectory p).run.run h = made at hrun
      obtain ⟨_ | _, after⟩ := made
      · have hafter := attempt_error hmake
        subst hafter
        simp only at hrun
        split at hrun
        · -- the directory above is missing: it is made first
          split at hrun
          · cases hrun
            exact Grows.refl p h'
          next above habove =>
          rw [run_bind] at hrun
          generalize hup : (makeDirectoriesFrom fuel above).run.run after = made at hrun
          obtain ⟨_ | _, between⟩ := made
          · cases hrun
            exact (ih above hup).of_parent habove
          · refine ((ih above hup).of_parent habove).trans ?_
            simp only [run_tryCatch] at hrun
            generalize hagain : (makeDirectory p).run.run between = made at hrun
            obtain ⟨_ | _, last⟩ := made
            · rw [run_unless_directory hrun]
              exact makeDirectory_grows hagain
            · cases hrun
              exact makeDirectory_grows hagain
        · rw [run_unless_directory hrun]
          exact Grows.refl p after
      · cases hrun
        exact makeDirectory_grows hmake

/-- **Making the directories of a path** changes nothing but that there may be new directories on
the way, whether or not it succeeds. -/
theorem makeDirectories_grows {p : Path} {result : Except Fault Unit} {h h' : Host}
    (hrun : (makeDirectories p).run.run h = (result, h')) : Grows p h h' :=
  makeDirectoriesFrom_grows _ p hrun

/-! ## Temporary files -/

theorem drawTemporary_ok {lead : Octets} {dir p : Path} {h h' : Host}
    (hrun : (drawTemporary lead dir).run.run h = (.ok p, h')) :
    ∃ base n, h.absoluteBase dir = .ok base ∧ p = base.join ⟨lead ++ sixDigits n⟩
      ∧ h' = { h with serial := n + 1 } := by
  have hstep := attempt_ok hrun
  simp only [except_bind_eq_ok] at hstep
  obtain ⟨base, hbase, hstep⟩ := hstep
  cases hstep
  exact ⟨base, _, hbase, rfl, rfl⟩

/-- The absolute path of a directory leads where its path leads. -/
theorem placeOf_absoluteBase {h : Host} (hnames : ∀ name ∈ h.cwd.place, Place.IsName name)
    {dir base : Path} (hbase : h.absoluteBase dir = .ok base) : h.placeOf base = h.placeOf dir := by
  unfold absoluteBase at hbase
  split at hbase
  · rw [Except.ok.inj hbase]
  next habsolute =>
  unfold currentPlace at hbase
  split at hbase
  · cases hbase
    unfold placeOf
    rw [Place.resolve_join _ _ _ (Bool.eq_false_iff.2 habsolute), Place.resolve_path hnames]
  · cases hbase

theorem run_about {α : Type} (p : Path) (act : HostAct α) (h : Host) :
    (about p act).run.run h = ((act.run.run h).1.mapError (.atPath · p), (act.run.run h).2) := by
  unfold about
  rw [run_tryCatch]
  generalize act.run.run h = answer
  obtain ⟨_ | _, after⟩ := answer <;> rfl

/-- Making something temporary: a path is drawn, and then the thing is made there. -/
theorem run_makeDrawn (make : Path → HostAct Unit)
    (hmake : ∀ {p fault h h'}, (make p).run.run h = (.error fault, h') → h' = h)
    {lead : Octets} {dir : Path} {h h' : Host} {result : Except Fault Path}
    (hrun : (do let p ← drawTemporary lead dir; about p (make p); pure p : HostAct Path).run.run h
      = (result, h')) :
    (h' = h ∧ ∃ fault, result = .error fault)
    ∨ ∃ base n, h.absoluteBase dir = .ok base
      ∧ ((∃ fault, result = .error fault ∧ h' = { h with serial := n + 1 })
        ∨ (result = .ok (base.join ⟨lead ++ sixDigits n⟩)
          ∧ (make (base.join ⟨lead ++ sixDigits n⟩)).run.run { h with serial := n + 1 }
            = (.ok (), h'))) := by
  rw [run_bind] at hrun
  generalize hdraw : (drawTemporary lead dir).run.run h = drawn at hrun
  obtain ⟨fault | p, after⟩ := drawn
  · cases hrun
    exact .inl ⟨attempt_error hdraw, fault, rfl⟩
  obtain ⟨base, n, hbase, rfl, rfl⟩ := drawTemporary_ok hdraw
  refine .inr ⟨base, n, hbase, ?_⟩
  simp only [run_bind, run_about] at hrun
  generalize hcreate : (make (base.join ⟨lead ++ sixDigits n⟩)).run.run
    { h with serial := n + 1 } = created at hrun ⊢
  obtain ⟨fault | _, after⟩ := created
  · cases hrun
    exact .inl ⟨_, rfl, hmake hcreate⟩
  · cases hrun
    exact .inr ⟨rfl, rfl⟩

/-- Making a temporary file: a path is drawn, and then the file is made. -/
theorem run_createTemporaryFile {lead : Octets} {dir : Path} {h h' : Host}
    {result : Except Fault Path}
    (hrun : (createTemporaryFile lead dir).run.run h = (result, h')) :
    (h' = h ∧ ∃ fault, result = .error fault)
    ∨ ∃ base n, h.absoluteBase dir = .ok base
      ∧ ((∃ fault, result = .error fault ∧ h' = { h with serial := n + 1 })
        ∨ (result = .ok (base.join ⟨lead ++ sixDigits n⟩)
          ∧ (createFile (base.join ⟨lead ++ sixDigits n⟩)).run.run { h with serial := n + 1 }
            = (.ok (), h'))) :=
  run_makeDrawn createFile attempt_error hrun

/-- The place of a path that is drawn. -/
theorem placeOf_drawn {lead : Octets} (hlead : Octets.slash ∉ lead) {dir base : Path} {h : Host}
    (hsound : h.Sound) (hbase : h.absoluteBase dir = .ok base) (n : Nat) :
    h.placeOf (base.join ⟨lead ++ sixDigits n⟩) = h.placeOf dir ++ [lead ++ sixDigits n] := by
  have hname := isName_temporary hlead n
  rw [← placeOf_absoluteBase hsound.names hbase]
  unfold placeOf
  rw [Place.resolve_join _ _ _ (Place.isAbsolute_of_isName hname), Place.resolve_name hname]

/-- The number that is drawn next plays no part in the tree. -/
theorem keeps_serial (h : Host) (serial : Nat) : h.Keeps { h with serial } :=
  ⟨rfl, fun hsound => ⟨hsound.grounded, hsound.current, hsound.names⟩, fun _ => id⟩

theorem createTemporaryFile_error {lead : Octets} {dir : Path} {h h' : Host} {fault : Fault}
    (hrun : (createTemporaryFile lead dir).run.run h = (.error fault, h')) :
    h'.files = h.files ∧ h'.cwd = h.cwd := by
  rcases run_createTemporaryFile hrun with ⟨rfl, -⟩ | ⟨base, n, -, hcases⟩
  · exact ⟨rfl, rfl⟩
  · rcases hcases with ⟨_, -, rfl⟩ | ⟨hresult, -⟩
    · exact ⟨rfl, rfl⟩
    · cases hresult

/-- **Making a temporary file** in a directory puts an empty file there, under a name that begins as
asked, and changes nothing else. -/
theorem createTemporaryFile_makes {lead : Octets} (hlead : Octets.slash ∉ lead) {dir p : Path}
    {h h' : Host} (hsound : h.Sound)
    (hrun : (createTemporaryFile lead dir).run.run h = (.ok p, h')) :
    h.Keeps h' ∧ h.nodeAt p = none
      ∧ (∃ n, h.placeOf p = h.placeOf dir ++ [lead ++ sixDigits n])
      ∧ h'.lookup p = .ok (h.placeOf p, some (.file { content := [] }))
      ∧ ∀ q, h'.files.get? q
        = if q = h.placeOf p then some (.file { content := [] }) else h.files.get? q := by
  rcases run_createTemporaryFile hrun with ⟨-, _, hfault⟩ | ⟨base, n, hbase, hcases⟩
  · cases hfault
  rcases hcases with ⟨_, hfault, -⟩ | ⟨hresult, hcreate⟩
  · cases hfault
  have hp := Except.ok.inj hresult
  rw [← hp] at hcreate
  obtain ⟨hkeeps, hmade⟩ := createFile_makes hcreate
  obtain ⟨hlookup, hnone, -⟩ := createFile_ok hcreate
  have hplace : h.placeOf p = h.placeOf dir ++ [lead ++ sixDigits n] := by
    rw [hp]
    exact placeOf_drawn hlead hsound hbase n
  have hwants : wantsDirectory p = false := by
    rw [hp]
    exact wantsDirectory_temporary base hlead n
  have hagain := hkeeps.lookup hlookup (by simp) hwants
  have hthere : h'.nodeAt p = some (.file { content := [] }) := by
    rw [nodeAt, hkeeps.placeOf, hmade, if_pos rfl]
  rw [hthere] at hagain
  exact ⟨(keeps_serial h _).trans hkeeps, hnone, ⟨n, hplace⟩, hagain, hmade⟩

/-- **Making a temporary directory** puts an empty directory where nothing was, under a path that is
drawn, and changes nothing else. -/
theorem createTemporaryDirectory_makes {lead : Octets} (hlead : Octets.slash ∉ lead) {dir p : Path}
    {h h' : Host} (hrun : (createTemporaryDirectory lead dir).run.run h = (.ok p, h')) :
    h.Keeps h' ∧ h.nodeAt p = none
      ∧ (∃ base n, h.absoluteBase dir = .ok base ∧ p = base.join ⟨lead ++ sixDigits n⟩
        ∧ h' = { h with
          files := h.files.put (h.placeOf p) .directory
          serial := n + 1 })
      ∧ h'.lookup p = .ok (h.placeOf p, some .directory)
      ∧ ∀ q, h'.files.get? q = if q = h.placeOf p then some .directory else h.files.get? q := by
  rcases run_makeDrawn makeDirectory attempt_error hrun with ⟨-, _, hfault⟩ | ⟨base, n, hbase, hcases⟩
  · cases hfault
  rcases hcases with ⟨_, hfault, -⟩ | ⟨hresult, hmake⟩
  · cases hfault
  have hp := Except.ok.inj hresult
  rw [← hp] at hmake
  obtain ⟨hkeeps, hmade⟩ := makeDirectory_makes hmake
  obtain ⟨hname, hlocate, hnone, hafter⟩ := makeDirectory_ok hmake
  have hwants : wantsDirectory p = false := by
    rw [hp]
    exact wantsDirectory_temporary base hlead n
  have hthere : h'.files.get? (h.placeOf p) = some .directory := by
    rw [hmade]
    exact if_pos rfl
  have hagain : h'.files.locate h'.cwd p = .ok (h.placeOf p, some .directory) := by
    rw [hkeeps.cwd, ← hthere]
    exact locate_of_directories hkeeps.directory (by simp) hlocate
  exact ⟨(keeps_serial h _).trans hkeeps, hnone, ⟨base, n, hbase, hp, hafter⟩,
    lookup_of_locate hname hwants hagain, hmade⟩

end Host

end TwinBuild
