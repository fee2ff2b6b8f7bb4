import TwinBuild.Attachment
import TwinBuild.Proofs.Storing

/-!
# Temporary paths

The program makes its own files and directories under absolute paths in the directory for temporary
files. Where this directory is depends on the environment and the current directory, which no
operation on files changes. Nor does any change what the host refuses. An absolute path is looked up
where it leads, and again after every operation that keeps the directories.

Main statements: `steady_store`; `Keeps.lookup_directory`; `drawn_eq_temporaryPath`, what is drawn is a
temporary path.
-/

namespace TwinBuild

namespace Host

open Files

/-! ## What operations on files leave alone -/

/-- A host with the same environment as before, which refuses the same operations. -/
structure SameRules (h h' : Host) : Prop where
  environment : h'.environment = h.environment
  refuses : h'.refuses = h.refuses

theorem SameRules.refl (h : Host) : SameRules h h := ⟨rfl, rfl⟩

theorem SameRules.trans {h h' h'' : Host} (hfirst : SameRules h h') (hsecond : SameRules h' h'') :
    SameRules h h'' :=
  ⟨hsecond.environment.trans hfirst.environment, hsecond.refuses.trans hfirst.refuses⟩

/-- A computation that leaves the environment alone and what the host refuses. -/
def Steady {ε α : Type} (act : ExceptT ε (StateM Host) α) : Prop :=
  ∀ h, SameRules h (act.run.run h).2

variable {ε α β : Type}

theorem steady_pure (a : α) : Steady (pure a : ExceptT ε (StateM Host) α) :=
  fun h => SameRules.refl h

theorem steady_throw (e : ε) : Steady (throw e : ExceptT ε (StateM Host) α) :=
  fun h => SameRules.refl h

theorem steady_get : Steady (get : HostAct Host) := fun h => SameRules.refl h

theorem Steady.bind {x : ExceptT ε (StateM Host) α} {f : α → ExceptT ε (StateM Host) β}
    (hx : Steady x) (hf : ∀ a, Steady (f a)) : Steady (x >>= f) := by
  intro h
  have hfirst := hx h
  rw [run_bind]
  generalize x.run.run h = answer at hfirst
  obtain ⟨_ | a, after⟩ := answer
  · exact hfirst
  · exact hfirst.trans (hf a after)

theorem Steady.tryCatch {act : ExceptT ε (StateM Host) α}
    {handle : ε → ExceptT ε (StateM Host) α} (hact : Steady act) (hhandle : ∀ e, Steady (handle e)) :
    Steady (tryCatch act handle) := by
  intro h
  have hfirst := hact h
  rw [run_tryCatch]
  generalize act.run.run h = answer at hfirst
  obtain ⟨e | _, after⟩ := answer
  · exact hfirst.trans (hhandle e after)
  · exact hfirst

/-- A step that fails changes nothing, so only one that succeeds has to be looked at. -/
theorem steady_attempt {step : Host → Except Fault (α × Host)}
    (hok : ∀ {h a h'}, (attempt step).run.run h = (.ok a, h') → SameRules h h') :
    Steady (attempt step) := by
  intro h
  generalize hrun : (attempt step).run.run h = answer
  obtain ⟨fault | a, after⟩ := answer
  · rw [attempt_error hrun]
    exact SameRules.refl h
  · exact hok hrun

theorem steady_makeDirectory (p : Path) : Steady (makeDirectory p) := by
  refine steady_attempt fun hrun => ?_
  obtain ⟨-, -, -, rfl⟩ := makeDirectory_ok hrun
  exact ⟨rfl, rfl⟩

theorem steady_openFile (p : Path) : Steady (openFile p) := by
  refine steady_attempt fun hrun => ?_
  rw [(openFile_ok hrun).1]
  exact SameRules.refl _

theorem steady_readNode (p : Path) (node : Node) : Steady (readNode p node) := by
  refine steady_attempt fun hrun => ?_
  rw [(readNode_ok hrun).1]
  exact SameRules.refl _

theorem steady_writeFile (p : Path) (content : Octets) : Steady (writeFile p content) := by
  refine steady_attempt fun hrun => ?_
  obtain ⟨_, _, _, _, f, _, rfl⟩ := writeFile_ok hrun
  exact ⟨rfl, rfl⟩

theorem steady_removeFile (p : Path) : Steady (removeFile p) := by
  refine steady_attempt fun hrun => ?_
  obtain ⟨-, rfl⟩ := removeFile_ok hrun
  exact ⟨rfl, rfl⟩

theorem steady_syncFile (p : Path) : Steady (syncFile p) := by
  refine steady_attempt fun hrun => ?_
  rw [syncFile_ok hrun]
  exact SameRules.refl _

theorem steady_renameFile (source target : Path) : Steady (renameFile source target) := by
  refine steady_attempt fun hrun => ?_
  obtain ⟨f, -, -, ⟨-, rfl⟩ | ⟨-, rfl⟩⟩ := renameFile_ok hrun
  · exact SameRules.refl _
  · exact ⟨rfl, rfl⟩

theorem steady_createFile (p : Path) : Steady (createFile p) := by
  refine steady_attempt fun hrun => ?_
  obtain ⟨-, -, rfl⟩ := createFile_ok hrun
  exact ⟨rfl, rfl⟩

theorem steady_drawTemporary (lead : Octets) (dir : Path) : Steady (drawTemporary lead dir) := by
  refine steady_attempt fun hrun => ?_
  obtain ⟨_, _, -, -, rfl⟩ := drawTemporary_ok hrun
  exact ⟨rfl, rfl⟩

theorem Steady.about {act : HostAct α} (hact : Steady act) (p : Path) : Steady (about p act) :=
  hact.tryCatch fun _ => steady_throw _

theorem steady_createTemporaryFile (lead : Octets) (dir : Path) :
    Steady (createTemporaryFile lead dir) :=
  (steady_drawTemporary lead dir).bind fun p =>
    ((steady_createFile p).about p).bind fun _ => steady_pure p

theorem steady_createTemporaryDirectory (lead : Octets) (dir : Path) :
    Steady (createTemporaryDirectory lead dir) :=
  (steady_drawTemporary lead dir).bind fun p =>
    ((steady_makeDirectory p).about p).bind fun _ => steady_pure p

/-- Asking whether there is a directory in spite of a fault. -/
theorem steady_unless_directory (p : Path) (fault : Fault) :
    Steady (do if (← get).isDirectory p then pure () else throw fault : HostAct Unit) := by
  refine steady_get.bind fun h => ?_
  split
  · exact steady_pure ()
  · exact steady_throw fault

theorem steady_makeDirectoriesFrom (fuel : Nat) (p : Path) :
    Steady (makeDirectoriesFrom fuel p) := by
  induction fuel generalizing p with
  | zero => exact steady_pure ()
  | succ fuel ih =>
      unfold makeDirectoriesFrom
      split
      · exact steady_pure ()
      refine (steady_makeDirectory p).tryCatch fun fault => ?_
      split
      · split
        · exact steady_throw fault
        next above _ =>
        refine (ih above).bind fun _ => ?_
        exact (steady_makeDirectory p).tryCatch (steady_unless_directory p)
      · exact steady_unless_directory p fault

end Host

namespace Archive

open Host

theorem steady_atStep {α : Type} (error : Fault → ArchiveError) {act : HostAct α}
    (hact : Steady act) : Steady (atStep error act) := by
  intro h
  rw [run_atStep]
  exact hact h

theorem steady_discard (staged : Path) : Steady (discard staged) := steady_removeFile staged

theorem steady_fill (a : Archive) (bitcode : Path) (source : Node) (staged : Path) :
    Steady (a.fill bitcode source staged) := by
  unfold fill
  refine (steady_atStep _ (steady_readNode bitcode source)).bind fun content => ?_
  refine (steady_atStep _ (steady_writeFile staged content)).bind fun _ => ?_
  refine (steady_atStep _ (steady_syncFile staged)).bind fun _ => ?_
  exact steady_atStep _ (steady_renameFile staged (a.entry bitcode))

/-- **Storing** leaves the environment alone and what the host refuses. -/
theorem steady_store (a : Archive) (bitcode : Path) : Steady (a.store bitcode) := by
  unfold store
  refine (steady_atStep _ (steady_makeDirectoriesFrom _ a.root)).bind fun _ => ?_
  refine (steady_atStep _ (steady_openFile bitcode)).bind fun source => ?_
  refine (steady_atStep _ (steady_createTemporaryFile stagedLead a.root)).bind fun staged => ?_
  refine Steady.bind ?_ fun _ => steady_pure _
  refine (steady_fill a bitcode source staged).tryCatch fun error => ?_
  exact (steady_discard staged).bind fun _ => steady_throw error

theorem sameRules_proceed {α : Type} {act : HostAct α} (hact : Steady act) (success : α → Phase)
    (failure : Fault → Phase) (h : Host) :
    SameRules h (Phase.proceed act success failure h).2 := by
  have hrules := hact h
  unfold Phase.proceed
  generalize act.run.run h = answer at hrules
  obtain ⟨_ | _, after⟩ := answer
  · exact hrules
  · exact hrules

theorem steady_pass (bitcode : Path) (source : Node) (copy : Path) (written : Octets) (n : Nat) :
    Steady (Phase.pass bitcode source copy written n) := by
  unfold Phase.pass
  refine (steady_readNode bitcode source).bind fun content => ?_
  split
  · exact steady_pure _
  · exact (steady_writeFile copy _).bind fun _ => steady_pure _

/-- **A step of a call** leaves the environment alone and what the host refuses. -/
theorem sameRules_step (a : Archive) (bitcode : Path) (φ : Phase) (n : Nat) (h : Host) :
    SameRules h (φ.step a bitcode n h).2 := by
  cases φ with
  | begun => exact sameRules_proceed (steady_makeDirectoriesFrom _ a.root) _ _ h
  | rooted => exact sameRules_proceed (steady_openFile bitcode) _ _ h
  | opened source =>
      exact sameRules_proceed (steady_createTemporaryFile stagedLead a.root) _ _ h
  | copying source copy written =>
      exact sameRules_proceed (steady_pass bitcode source copy written n) _ _ h
  | copied source copy => exact sameRules_proceed (steady_syncFile copy) _ _ h
  | flushed source copy =>
      exact sameRules_proceed (steady_renameFile copy (a.entry bitcode)) _ _ h
  | dropping copy error => exact sameRules_proceed (steady_removeFile copy) _ _ h
  | succeeded source => exact .refl h
  | failed error left => exact .refl h

/-- A call that nothing comes in between leaves them alone as well. -/
theorem sameRules_inOneGo {a : Archive} {bitcode : Path} {σ σ' : Calls Unit}
    (hrun : InOneGo a bitcode σ σ') : SameRules σ.host σ'.host := by
  induction hrun with
  | refl => exact .refl _
  | @tail σ₁ σ₂ _ hstep ih =>
      obtain ⟨n, own⟩ := hstep
      have hrules := sameRules_step a bitcode (σ₁.phase ()) n σ₁.host
      rw [own] at hrules
      exact ih.trans hrules

end Archive

namespace Host

open Files Attachment

/-! ## Absolute paths -/

variable {h h' : Host} {p dir base : Path} {place : Place}

/-- An absolute path that can be read is a walk from the root, in any tree. -/
theorem locate_of_isAbsolute {t : Files} {start : CurrentDirectory} {node : Option Node}
    (habsolute : p.isAbsolute = true) (h : t.locate start p = .ok (place, node)) (u : Files) :
    u.locate start p = u.walk [] (steps p) := by
  unfold locate at h ⊢
  split at h
  · cases h
  next hempty =>
  split at h
  · cases h
  next hlength =>
  rw [if_neg hempty, if_neg hlength, if_pos habsolute]

/-- An absolute path is looked up where it leads. -/
theorem lookup_of_isAbsolute {node : Option Node} (habsolute : p.isAbsolute = true)
    (hlookup : h.lookup p = .ok (place, node)) : place = h.placeOf p ∧ node = h.nodeAt p := by
  obtain ⟨-, hlocate, -⟩ := lookup_eq_ok hlookup
  have hwalk := locate_of_isAbsolute habsolute hlocate h.files
  obtain ⟨rfl, -⟩ := locate_eq_ok hlocate
  rw [hlocate] at hwalk
  exact ⟨rfl, (walk_eq_ok hwalk.symm).2⟩

/-- **A directory with an absolute path is looked up again** where the directories are still
directories, whatever has become of the current one. -/
theorem Keeps.lookup_directory (hkeeps : h.Keeps h') (habsolute : p.isAbsolute = true)
    (hwants : wantsDirectory p = false) (hlookup : h.lookup p = .ok (place, some .directory)) :
    h'.lookup p = .ok (place, some .directory) := by
  obtain ⟨hname, hlocate, -⟩ := lookup_eq_ok hlookup
  have hwalk := locate_of_isAbsolute habsolute hlocate
  rw [hwalk] at hlocate
  have hthere := hkeeps.directory place (walk_eq_ok hlocate).2.symm
  refine lookup_of_locate hname hwants ?_
  rw [hkeeps.cwd, hwalk, ← hthere]
  exact walk_of_directories hkeeps.directory hlocate

/-- The absolute path of a directory, whether or not the current directory is lost. -/
def absolutePath (h : Host) (dir : Path) : Path :=
  if dir.isAbsolute then dir else h.cwd.place.path.join dir

theorem isAbsolute_absolutePath (h : Host) (dir : Path) :
    (h.absolutePath dir).isAbsolute = true := by
  unfold absolutePath
  split
  · assumption
  · next habsolute =>
    rw [Path.isAbsolute_join _ _ (Bool.eq_false_iff.2 habsolute)]
    rfl

theorem placeOf_absolutePath (hsound : h.Sound) (dir : Path) :
    h.placeOf (h.absolutePath dir) = h.placeOf dir := by
  unfold absolutePath
  split
  · rfl
  · next habsolute =>
    unfold placeOf
    rw [Place.resolve_join _ _ _ (Bool.eq_false_iff.2 habsolute), Place.resolve_path hsound.names]

theorem eq_absolutePath (hbase : h.absoluteBase dir = .ok base) : base = h.absolutePath dir := by
  unfold absoluteBase at hbase
  unfold absolutePath
  split at hbase
  · next habsolute =>
    rw [if_pos habsolute]
    exact (Except.ok.inj hbase).symm
  · next habsolute =>
    rw [if_neg habsolute]
    unfold currentPlace at hbase
    split at hbase
    · exact (Except.ok.inj hbase).symm
    · cases hbase

/-! ## Paths of temporary files -/

/-- The place of the directory for temporary files. -/
def temporaryPlace (h : Host) : Place := h.placeOf h.temporaryDirectory

/-- The path of the program's own temporary file or directory with a number. -/
def temporaryPath (h : Host) (n : Nat) : Path :=
  (h.absolutePath h.temporaryDirectory).join ⟨temporaryLead ++ sixDigits n⟩

theorem slash_not_mem_temporaryLead : Octets.slash ∉ temporaryLead := by decide

theorem isAbsolute_temporaryPath (h : Host) (n : Nat) : (h.temporaryPath n).isAbsolute = true := by
  have hname := isName_temporary slash_not_mem_temporaryLead n
  unfold temporaryPath
  rw [Path.isAbsolute_join _ _ (Place.isAbsolute_of_isName hname)]
  exact isAbsolute_absolutePath h _

theorem wantsDirectory_temporaryPath (h : Host) (n : Nat) :
    wantsDirectory (h.temporaryPath n) = false :=
  wantsDirectory_temporary _ slash_not_mem_temporaryLead n

/-- A temporary path is one step down from the directory for temporary files. -/
theorem placeOf_temporaryPath (hsound : h.Sound) (n : Nat) :
    h.placeOf (h.temporaryPath n) = h.temporaryPlace ++ [temporaryLead ++ sixDigits n] := by
  have hname := isName_temporary slash_not_mem_temporaryLead n
  unfold temporaryPlace
  rw [← placeOf_absolutePath hsound h.temporaryDirectory]
  unfold placeOf temporaryPath
  rw [Place.resolve_join _ _ _ (Place.isAbsolute_of_isName hname), Place.resolve_name hname]

/-- What is drawn in the directory for temporary files is a temporary path. -/
theorem drawn_eq_temporaryPath (hbase : h.absoluteBase h.temporaryDirectory = .ok base) (n : Nat) :
    base.join ⟨temporaryLead ++ sixDigits n⟩ = h.temporaryPath n := by
  rw [eq_absolutePath hbase]
  rfl

/-- Temporary paths depend on the environment and on where the current directory is. -/
theorem temporaryPath_congr (hplace : h'.cwd.place = h.cwd.place)
    (henvironment : h'.environment = h.environment) (n : Nat) :
    h'.temporaryDirectory = h.temporaryDirectory ∧ h'.temporaryPath n = h.temporaryPath n := by
  have hdirectory : h'.temporaryDirectory = h.temporaryDirectory := by
    unfold temporaryDirectory valueOf
    rw [henvironment]
  refine ⟨hdirectory, ?_⟩
  unfold temporaryPath absolutePath
  rw [hdirectory, hplace]

/-- **A temporary path**: one that the program may draw on a host for a temporary file or directory. -/
def IsTemporary (h : Host) (p : Path) : Prop := ∃ n, p = h.temporaryPath n

/-- What is made under a drawn name has a temporary path. -/
theorem isTemporary_of_makeDrawn {make : Path → HostAct Unit}
    (hmake : ∀ {p fault h h'}, (make p).run.run h = (.error fault, h') → h' = h)
    (hrun : (do
        let p ← drawTemporary temporaryLead h.temporaryDirectory
        about p (make p)
        pure p : HostAct Path).run.run h = (.ok p, h')) :
    h.IsTemporary p := by
  rcases run_makeDrawn make hmake hrun with ⟨-, fault, hfault⟩ | ⟨base, n, hbase, hcases⟩
  · cases hfault
  rcases hcases with ⟨fault, hfault, -⟩ | ⟨hp, -⟩
  · cases hfault
  exact ⟨n, by rw [Except.ok.inj hp, drawn_eq_temporaryPath hbase]⟩

/-- What is made in a temporary directory has its path and then a slash before the name. -/
theorem IsTemporary.text_join (htemporary : h.IsTemporary p) {name : Octets}
    (hname : (⟨name⟩ : Path).isAbsolute = false) :
    (p.join ⟨name⟩).text = p.text ++ Octets.slash :: name := by
  obtain ⟨n, rfl⟩ := htemporary
  have hlast := h.wantsDirectory_temporaryPath n
  have hne : (h.temporaryPath n).text.isEmpty = false := by
    have habsolute := h.isAbsolute_temporaryPath n
    unfold Path.isAbsolute at habsolute
    cases htext : (h.temporaryPath n).text with
    | nil =>
        rw [htext] at habsolute
        cases habsolute
    | cons => rfl
  unfold Files.wantsDirectory at hlast
  unfold Path.join
  rw [hname, hne, hlast, if_neg Bool.false_ne_true, Bool.false_or, if_neg Bool.false_ne_true,
    List.append_assoc]
  rfl

end Host

end TwinBuild
