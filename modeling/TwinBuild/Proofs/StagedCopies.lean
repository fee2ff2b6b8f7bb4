import TwinBuild.Archive.Steps
import TwinBuild.Proofs.HostOperations

/-!
# What one step of a call changes

A step of a call makes directories on the way to the archive, changes the staged copy of that call,
or moves the finished copy over the entry of its key. Nothing else in the tree changes. While a call
has a copy, the copy is a file under a staged name that holds what was passed on so far.

Main statement: `effect_step`.
-/

namespace TwinBuild

namespace Archive

open Files

/-- A path with a staged name in the archive. -/
def IsStaged (a : Archive) (h : Host) (copy : Path) : Prop :=
  ∃ n, h.placeOf copy = h.placeOf a.root ++ [stagedLead ++ Host.sixDigits n]

theorem placeOf_entry (a : Archive) (h : Host) (bitcode : Path) :
    h.placeOf (a.entry bitcode) = h.placeOf a.root ++ [entryName bitcode] := by
  have hname := isName_entryName bitcode
  unfold Host.placeOf entry
  rw [Place.resolve_join _ _ _ (Place.isAbsolute_of_isName hname), Place.resolve_name hname]

/-- **One place, one name.** -/
theorem entryName_of_placeOf {a : Archive} {h : Host} {p q : Path}
    (hplace : h.placeOf (a.entry p) = h.placeOf (a.entry q)) : entryName p = entryName q := by
  rw [placeOf_entry, placeOf_entry] at hplace
  exact (List.cons.inj (List.append_cancel_left hplace)).1

/-- **A staged copy is not where an entry is.** -/
theorem IsStaged.ne_entry {a : Archive} {h : Host} {copy : Path} (hcopy : a.IsStaged h copy)
    (bitcode : Path) : h.placeOf copy ≠ h.placeOf (a.entry bitcode) := by
  obtain ⟨n, hn⟩ := hcopy
  rw [hn, placeOf_entry]
  intro heq
  have hnames := List.append_cancel_left heq
  exact entryName_ne_staged bitcode _ (List.cons.inj hnames).1.symm

/-- An entry is not on the way to the archive, unless that way goes up. -/
theorem not_onWay_entry {a : Archive} (hdown : Path.parentName ∉ a.root.steps) (h : Host)
    (bitcode : Path) : ¬ Place.OnWay h.cwd.place a.root (h.placeOf (a.entry bitcode)) := by
  intro hway
  have hlength := (hway.isPrefix hdown).length_le
  rw [placeOf_entry, List.length_append, List.length_singleton] at hlength
  unfold Host.placeOf at hlength
  omega

/-- **What stands in an entry is left alone.** Where the path of the archive goes up, a directory
can have been made there. -/
def Leaves (a : Archive) (h h' : Host) (bitcode : Path) : Prop :=
  h'.contentOf? (a.entry bitcode) = h.contentOf? (a.entry bitcode)
  ∧ (Path.parentName ∉ a.root.steps → h'.nodeAt (a.entry bitcode) = h.nodeAt (a.entry bitcode))

theorem Leaves.of_spares {a : Archive} {h h' : Host} {bitcode : Path}
    (hspares : Host.Spares a.root h h' (h.placeOf (a.entry bitcode)))
    (hplace : h'.placeOf (a.entry bitcode) = h.placeOf (a.entry bitcode)) :
    a.Leaves h h' bitcode := by
  refine ⟨hspares.contentOf? hplace, fun hdown => ?_⟩
  rcases hspares with hsame | hmade
  · unfold Host.nodeAt
    rw [hplace]
    exact hsame
  · exact absurd hmade.onWay (not_onWay_entry hdown h bitcode)

/-- The entry for a bitcode file holds all of the content that the file had before. -/
def IsWhole (a : Archive) (h₀ h : Host) (bitcode : Path) : Prop :=
  ∃ content, h₀.contentOf? bitcode = some content
    ∧ h.contentOf? (a.entry bitcode) = some content

theorem isStaged_iff {a : Archive} {h h' : Host} (hkeeps : h.Keeps h') {copy : Path} :
    a.IsStaged h' copy ↔ a.IsStaged h copy := by
  unfold IsStaged
  rw [hkeeps.placeOf, hkeeps.placeOf]

namespace Phase

/-- What the copy of a call holds: as much as was passed on, and in the end all of what was
opened. -/
def Fills : Phase → File → Prop
  | copying _ _ written, f => f.content = written
  | copied source _, f => ∃ g, source = .file g ∧ f.content = g.content
  | flushed source _, f => ∃ g, source = .file g ∧ f.content = g.content
  | _, _ => True

/-- **The copy of a call** is a file under a staged name, with what it should hold. -/
def Holds (a : Archive) (h : Host) (φ : Phase) : Prop :=
  ∀ copy, φ.copy? = some copy → a.IsStaged h copy
    ∧ ∃ f, h.lookup copy = .ok (h.placeOf copy, some (.file f)) ∧ φ.Fills f

/-- **What one step changes**, from a phase and a host to the next. -/
structure Effect (a : Archive) (bitcode : Path) (φ : Phase) (h : Host) (φ' : Phase) (h' : Host) :
    Prop where
  keeps : h.Keeps h'
  holds : φ'.Holds a h'
  node : ∀ q, Host.Spares a.root h h' q
    ∨ (∃ copy, (φ.copy? = some copy ∨ φ'.copy? = some copy) ∧ q = h.placeOf copy)
    ∨ (q = h.placeOf (a.entry bitcode) ∧ ∃ g f, φ' = .succeeded (.file g)
      ∧ h'.files.get? q = some (.file f) ∧ f.content = g.content)
  /-- A copy is made where nothing was. -/
  made : ∀ copy, φ'.copy? = some copy → φ.copy? = some copy
    ∨ (φ.copy? = none ∧ h.nodeAt copy = none)
  /-- A copy that is given up is gone. -/
  gone : ∀ copy, φ.copy? = some copy → φ'.copy? = some copy
    ∨ (φ'.copy? = none ∧ h'.nodeAt copy = none)
  /-- What is opened is what the path names. -/
  source : ∀ source, φ'.source? = some source → φ.source? = some source
    ∨ (φ = .rooted ∧ (h.nodeAt bitcode = some source ∨ source = .directory))
  /-- A call succeeds with its entry complete. -/
  succeeded : ∀ source, φ' = .succeeded source → φ = .succeeded source
    ∨ ∃ g f, source = .file g ∧ h'.nodeAt (a.entry bitcode) = some (.file f)
      ∧ f.content = g.content

variable {a : Archive} {bitcode : Path} {h h' : Host} {φ φ' : Phase}

/-- The copy that a call has before a step or after it stands under a staged name. -/
theorem Effect.isStaged (he : Effect a bitcode φ h φ' h') (hholds : φ.Holds a h) {copy : Path}
    (hcopy : φ.copy? = some copy ∨ φ'.copy? = some copy) : a.IsStaged h copy := by
  rcases hcopy with hcopy | hcopy
  · exact (hholds copy hcopy).1
  · exact (isStaged_iff he.keeps).1 (he.holds copy hcopy).1

/-- **What a step changes in an entry**: nothing, or the call has succeeded and the entry is that of
its key. -/
theorem Effect.entry (he : Effect a bitcode φ h φ' h') (hholds : φ.Holds a h) (p : Path) :
    a.Leaves h h' p
    ∨ (entryName p = entryName bitcode ∧ ∃ g f, φ' = .succeeded (.file g)
      ∧ h'.nodeAt (a.entry p) = some (.file f) ∧ f.content = g.content) := by
  have hplace := he.keeps.placeOf (a.entry p)
  rcases he.node (h.placeOf (a.entry p)) with hspares | ⟨copy, hcopy, hentry⟩
      | ⟨hentry, g, f, hphase, hfile, hcontent⟩
  · exact .inl (.of_spares hspares hplace)
  · exact absurd hentry.symm ((he.isStaged hholds hcopy).ne_entry p)
  · rw [← hplace] at hfile
    exact .inr ⟨entryName_of_placeOf hentry, g, f, hphase, hfile, hcontent⟩

/-- A step that leaves the tree as it is, and the copy with it. -/
theorem Effect.of_same (hfiles : h'.files = h.files) (hcwd : h'.cwd = h.cwd)
    (hholds : φ.Holds a h) (hcopy : φ'.copy? = φ.copy?) (hfills : ∀ f, φ.Fills f → φ'.Fills f)
    (hsource : ∀ source, φ'.source? = some source → φ.source? = some source
      ∨ (φ = .rooted ∧ (h.nodeAt bitcode = some source ∨ source = .directory)))
    (hsucceeded : ∀ source, φ' = .succeeded source → φ = .succeeded source) :
    Effect a bitcode φ h φ' h' := by
  have hlookup : ∀ p, h'.lookup p = h.lookup p := by
    intro p
    unfold Host.lookup
    rw [hfiles, hcwd]
  have hkeeps : h.Keeps h' := by
    refine ⟨hcwd, fun hsound => ⟨?_, ?_, ?_⟩, fun q hq => ?_⟩
    · rw [hfiles]
      exact hsound.grounded
    · rw [hfiles, hcwd]
      exact hsound.current
    · rw [hcwd]
      exact hsound.names
    · rw [hfiles]
      exact hq
  refine ⟨hkeeps, ?_, fun q => .inl (.inl (by rw [hfiles])), ?_, ?_, hsource,
    fun source hs => .inl (hsucceeded source hs)⟩
  · intro copy hc
    rw [hcopy] at hc
    obtain ⟨hstaged, f, hfound, hcontent⟩ := hholds copy hc
    refine ⟨(isStaged_iff hkeeps).2 hstaged, f, ?_, hfills f hcontent⟩
    rw [hlookup, hkeeps.placeOf]
    exact hfound
  · intro copy hc
    exact .inl (hcopy ▸ hc)
  · intro copy hc
    exact .inl (hcopy.trans hc)

theorem holds_of_no_copy (hcopy : φ.copy? = none) : φ.Holds a h := by
  intro copy hc
  rw [hcopy] at hc
  cases hc

/-- A step that fails with the tree as it was, and keeps the copy to be dropped. -/
theorem Effect.of_dropping {copy : Path} {error : ArchiveError} (hsame : h' = h)
    (hholds : φ.Holds a h) (hcopy : φ.copy? = some copy) :
    Effect a bitcode φ h (.dropping copy error) h' := by
  subst hsame
  refine .of_same rfl rfl hholds hcopy.symm (fun _ _ => trivial) ?_ ?_
  · intro source hs
    cases hs
  · intro source hs
    cases hs

/-- Making the directory of the archive. -/
theorem Effect.of_grows (hgrows : Host.Grows a.root h h') (hcopy : φ.copy? = none)
    (hcopy' : φ'.copy? = none) (hsource : φ'.source? = none) : Effect a bitcode φ h φ' h' := by
  refine ⟨hgrows.toKeeps, holds_of_no_copy hcopy', fun q => .inl (hgrows.spares q), ?_, ?_, ?_, ?_⟩
  · intro copy hc
    rw [hcopy'] at hc
    cases hc
  · intro copy hc
    rw [hcopy] at hc
    cases hc
  · intro source hs
    rw [hsource] at hs
    cases hs
  · rintro source rfl
    cases hsource

/-- Making the copy. -/
theorem Effect.of_created {source : Node} {copy : Path} (hsound : h.Sound)
    (hrun : (Host.createTemporaryFile stagedLead a.root).run.run h = (.ok copy, h')) :
    Effect a bitcode (.opened source) h (.copying source copy []) h' := by
  obtain ⟨hkeeps, hnone, hplace, hlookup, hmade⟩ :=
    Host.createTemporaryFile_makes (by decide) hsound hrun
  have hstaged : a.IsStaged h copy := hplace
  refine ⟨hkeeps, ?_, ?_, ?_, ?_, ?_, ?_⟩
  · intro c hc
    cases hc
    refine ⟨(isStaged_iff hkeeps).2 hstaged, { content := [] }, ?_, rfl⟩
    rw [hkeeps.placeOf]
    exact hlookup
  · intro q
    by_cases hq : q = h.placeOf copy
    · exact .inr (.inl ⟨copy, .inr rfl, hq⟩)
    · exact .inl (.inl ((hmade q).trans (if_neg hq)))
  · intro c hc
    cases hc
    exact .inr ⟨rfl, hnone⟩
  · intro c hc
    cases hc
  · intro s hs
    exact .inl hs
  · intro s hs
    cases hs

/-- Passing on a piece. -/
theorem Effect.of_written {source : Node} {copy : Path} {written written' : Octets}
    (hholds : (Phase.copying source copy written).Holds a h)
    (hrun : (Host.writeFile copy written').run.run h = (.ok (), h')) :
    Effect a bitcode (.copying source copy written) h (.copying source copy written') h' := by
  obtain ⟨hkeeps, f, hcontent, hmade⟩ := Host.writeFile_makes hrun
  obtain ⟨hstaged, g, hfound, -⟩ := hholds copy rfl
  refine ⟨hkeeps, ?_, ?_, fun _ hc => .inl hc, fun _ hc => .inl hc, fun _ hs => .inl hs, ?_⟩
  · intro c hc
    cases hc
    have hwants := (Host.lookup_eq_ok hfound).2.2 g rfl
    have hthere : h'.nodeAt copy = some (.file f) := by
      rw [Host.nodeAt, hkeeps.placeOf, hmade, if_pos rfl]
    refine ⟨(isStaged_iff hkeeps).2 hstaged, f, ?_, hcontent⟩
    rw [hkeeps.lookup hfound (by simp) hwants, hthere, hkeeps.placeOf]
  · intro q
    by_cases hq : q = h.placeOf copy
    · exact .inr (.inl ⟨copy, .inl rfl, hq⟩)
    · exact .inl (.inl ((hmade q).trans (if_neg hq)))
  · intro s hs
    cases hs

/-- Moving the copy over the entry. -/
theorem Effect.of_placed {source : Node} {copy : Path} (hsound : h.Sound)
    (hholds : (Phase.flushed source copy).Holds a h)
    (hrun : (Host.renameFile copy (a.entry bitcode)).run.run h = (.ok (), h')) :
    Effect a bitcode (.flushed source copy) h (.succeeded source) h' := by
  obtain ⟨hkeeps, f, hfile, -, hmade⟩ := Host.renameFile_makes hsound hrun
  obtain ⟨hstaged, f', hfound, g, rfl, hcontent⟩ := hholds copy rfl
  -- what was looked up is the file that is moved
  have hsame : f' = f := by
    have hthere := (Host.nodeAt_of_lookup hfound (by simp)).2
    rw [hfile] at hthere
    exact (Node.file.inj (Option.some.inj hthere)).symm
  subst hsame
  have hentry : h'.files.get? (h.placeOf (a.entry bitcode)) = some (.file f') := by
    rw [hmade, if_pos rfl]
  refine ⟨hkeeps, holds_of_no_copy rfl, ?_, ?_, ?_, fun _ hs => .inl hs, ?_⟩
  · intro q
    by_cases hq : q = h.placeOf (a.entry bitcode)
    · subst hq
      exact .inr (.inr ⟨rfl, g, f', rfl, hentry, hcontent⟩)
    · by_cases hcopy : q = h.placeOf copy
      · exact .inr (.inl ⟨copy, .inl rfl, hcopy⟩)
      · refine .inl (.inl ?_)
        rw [hmade, if_neg hq, if_neg hcopy]
  · intro c hc
    cases hc
  · intro c hc
    cases hc
    refine .inr ⟨rfl, ?_⟩
    rw [Host.nodeAt, hkeeps.placeOf, hmade, if_neg (hstaged.ne_entry bitcode), if_pos rfl]
  · intro s hs
    cases hs
    refine .inr ⟨g, f', rfl, ?_, hcontent⟩
    rw [Host.nodeAt, hkeeps.placeOf]
    exact hentry

/-- Taking the copy away. -/
theorem Effect.of_dropped {copy : Path} {error : ArchiveError} (hsound : h.Sound)
    (hrun : (Host.removeFile copy).run.run h = (.ok (), h')) :
    Effect a bitcode (.dropping copy error) h (.failed error none) h' := by
  obtain ⟨hkeeps, -, hmade⟩ := Host.removeFile_makes hsound hrun
  refine ⟨hkeeps, holds_of_no_copy rfl, ?_, ?_, ?_, ?_, ?_⟩
  · intro q
    by_cases hq : q = h.placeOf copy
    · exact .inr (.inl ⟨copy, .inl rfl, hq⟩)
    · exact .inl (.inl ((hmade q).trans (if_neg hq)))
  · intro c hc
    cases hc
  · intro c hc
    cases hc
    refine .inr ⟨rfl, ?_⟩
    rw [Host.nodeAt, hkeeps.placeOf, hmade, if_pos rfl]
  · intro s hs
    cases hs
  · intro s hs
    cases hs

/-- What holds after an operation that succeeds and after one that fails holds after a step. -/
theorem of_proceed {α : Type} {act : HostAct α} {success : α → Phase} {failure : Fault → Phase}
    {P : Phase → Host → Prop} (hok : ∀ x h', act.run.run h = (.ok x, h') → P (success x) h')
    (herror : ∀ fault h', act.run.run h = (.error fault, h') → P (failure fault) h') :
    P (proceed act success failure h).1 (proceed act success failure h).2 := by
  unfold proceed
  generalize hrun : act.run.run h = answer
  obtain ⟨fault | x, h'⟩ := answer
  · exact herror fault h' hrun
  · exact hok x h' hrun

/-- Either nothing was left to pass on, or a piece was written. -/
theorem pass_ok {source : Node} {copy : Path} {written : Octets} {n : Nat}
    (hrun : (pass bitcode source copy written n).run.run h = (.ok φ', h')) :
    ∃ g, source = .file g
      ∧ ((φ' = .copied source copy ∧ written = g.content ∧ h' = h)
        ∨ ∃ written', φ' = .copying source copy written'
          ∧ (Host.writeFile copy written').run.run h = (.ok (), h')) := by
  unfold pass at hrun
  rw [Host.run_bind] at hrun
  generalize hread : (Host.readNode bitcode source).run.run h = answer at hrun
  obtain ⟨fault | content, after⟩ := answer
  · cases hrun
  obtain ⟨rfl, g, rfl, hcontent⟩ := Host.readNode_ok hread
  refine ⟨g, rfl, ?_⟩
  simp only at hrun
  split at hrun
  · next hend =>
    cases hrun
    exact .inl ⟨rfl, hend.2.trans hcontent.symm, rfl⟩
  · rw [Host.run_bind] at hrun
    generalize hwrite : (Host.writeFile copy _).run.run after = answer at hrun
    obtain ⟨fault | _, last⟩ := answer
    · cases hrun
    · cases hrun
      exact .inr ⟨_, rfl, hwrite⟩

/-- A piece that could not be passed on has left the host as it was. -/
theorem pass_error {source : Node} {copy : Path} {written : Octets} {n : Nat} {fault : Fault}
    (hrun : (pass bitcode source copy written n).run.run h = (.error fault, h')) : h' = h := by
  unfold pass at hrun
  rw [Host.run_bind] at hrun
  generalize hread : (Host.readNode bitcode source).run.run h = answer at hrun
  obtain ⟨_ | content, after⟩ := answer
  · cases hrun
    exact Host.attempt_error hread
  obtain ⟨rfl, -⟩ := Host.readNode_ok hread
  simp only at hrun
  split at hrun
  · cases hrun
  · rw [Host.run_bind] at hrun
    generalize hwrite : (Host.writeFile copy _).run.run after = answer at hrun
    obtain ⟨_ | _, last⟩ := answer
    · cases hrun
      exact Host.attempt_error hwrite
    · cases hrun

/-- **What a step changes.** -/
theorem effect_step (hsound : h.Sound) (hholds : φ.Holds a h) (n : Nat) :
    Effect a bitcode φ h (φ.step a bitcode n h).1 (φ.step a bitcode n h).2 := by
  cases φ with
  | begun =>
      refine of_proceed (P := Effect a bitcode .begun h) ?_ ?_
      · intro _ h' hrun
        exact .of_grows (Host.makeDirectories_grows hrun) rfl rfl rfl
      · intro fault h' hrun
        exact .of_grows (Host.makeDirectories_grows hrun) rfl rfl rfl
  | rooted =>
      refine of_proceed (P := Effect a bitcode .rooted h) ?_ ?_
      · intro node h' hrun
        obtain ⟨rfl, hnode⟩ := Host.openFile_ok hrun
        refine .of_same rfl rfl hholds rfl (fun _ _ => trivial) ?_ fun _ hs => by cases hs
        intro source hs
        cases hs
        exact .inr ⟨rfl, hnode⟩
      · intro fault h' hrun
        rw [Host.attempt_error hrun]
        exact .of_same rfl rfl hholds rfl (fun _ _ => trivial) (fun _ hs => by cases hs)
          fun _ hs => by cases hs
  | opened source =>
      refine of_proceed (P := Effect a bitcode (.opened source) h) ?_ ?_
      · intro copy h' hrun
        exact .of_created hsound hrun
      · intro fault h' hrun
        obtain ⟨hfiles, hcwd⟩ := Host.createTemporaryFile_error hrun
        exact .of_same hfiles hcwd hholds rfl (fun _ _ => trivial) (fun _ hs => by cases hs)
          fun _ hs => by cases hs
  | copying source copy written =>
      refine of_proceed (P := Effect a bitcode (.copying source copy written) h) ?_ ?_
      · intro φ' h' hrun
        obtain ⟨g, rfl, ⟨rfl, rfl, rfl⟩ | ⟨written', rfl, hwrite⟩⟩ := pass_ok hrun
        · exact .of_same rfl rfl hholds rfl (fun _ hf => ⟨g, rfl, hf⟩) (fun _ hs => .inl hs)
            fun _ hs => by cases hs
        · exact .of_written hholds hwrite
      · intro fault h' hrun
        exact .of_dropping (pass_error hrun) hholds rfl
  | copied source copy =>
      refine of_proceed (P := Effect a bitcode (.copied source copy) h) ?_ ?_
      · intro _ h' hrun
        rw [Host.syncFile_ok hrun]
        exact .of_same rfl rfl hholds rfl (fun _ hf => hf) (fun _ hs => .inl hs)
          fun _ hs => by cases hs
      · intro fault h' hrun
        exact .of_dropping (Host.attempt_error hrun) hholds rfl
  | flushed source copy =>
      refine of_proceed (P := Effect a bitcode (.flushed source copy) h) ?_ ?_
      · intro _ h' hrun
        exact .of_placed hsound hholds hrun
      · intro fault h' hrun
        exact .of_dropping (Host.attempt_error hrun) hholds rfl
  | dropping copy error =>
      refine of_proceed (P := Effect a bitcode (.dropping copy error) h) ?_ ?_
      · intro _ h' hrun
        exact .of_dropped hsound hrun
      · intro fault h' hrun
        rw [Host.attempt_error hrun]
        exact .of_same rfl rfl hholds rfl (fun _ _ => trivial) (fun _ hs => by cases hs)
          fun _ hs => by cases hs
  | succeeded source =>
      exact .of_same rfl rfl hholds rfl (fun _ hf => hf) (fun _ hs => .inl hs) fun _ hs => hs
  | failed error left =>
      exact .of_same rfl rfl hholds rfl (fun _ hf => hf) (fun _ hs => .inl hs) fun _ hs => hs

end Phase

end Archive

end TwinBuild
