import TwinBuild.Proofs.ArchiveHistory
import TwinBuild.Proofs.References
import TwinBuild.Proofs.TemporaryPaths

/-!
# What the directory for temporary files holds

At any time the program has one scratch directory and one payload file of its own at most. All else
below the directory for temporary files is as it was when the program started. The operations of the
program keep this, and so do commands that change nothing there but what is in the scratch
directory.

Main statements: `Accounted.command`, `Accounted.writePayload_ok`, `Accounted.removePayload`,
`Accounted.store` and `Accounted.removeScratch`.
-/

namespace TwinBuild

namespace Files

/-- What survives of a current directory is a directory. -/
theorem hasCurrent_surviving (t : Files) (here : CurrentDirectory) :
    t.HasCurrent (t.surviving here) := by
  unfold HasCurrent surviving
  simp only
  generalize hgone : (List.range here.place.length).find? _ = gone
  cases gone with
  | none =>
      rw [Option.getD_none, Nat.sub_self]
      rfl
  | some n =>
      have hn := List.find?_some hgone
      rw [Bool.and_eq_true, beq_iff_eq] at hn
      exact hn.2

/-- A tree without gaps has none when a place is taken away with all below it. -/
theorem Grounded.remove {t : Files} (h : t.Grounded) (place : Place) :
    (t.remove place).Grounded := by
  intro q node hq
  by_cases hroot : q.dropLast = []
  · rw [hroot]
    rfl
  have hne : q ≠ [] := by
    rintro rfl
    exact hroot rfl
  rw [get?_remove t place q hne] at hq
  split at hq
  · cases hq
  next hbelow =>
  rw [get?_remove t place _ hroot, if_neg]
  · exact h q node hq
  · exact fun habove => hbelow (habove.trans (List.dropLast_prefix q))

end Files

namespace Host

open Files Attachment

variable {h h' h₀ : Host} {p : Path} {scratch payload : Option Path}

/-- Anything holds of a path where there is none. -/
theorem forall_mem_none {P : Path → Prop} : ∀ q ∈ (none : Option Path), P q := by
  intro q hq
  cases hq

/-! ## Removing directories -/

/-- A directory that can be looked up can be taken away, unless the host refuses. -/
theorem removeDirectory_of_lookup {place : Place} (hpermit : h.refuses (.removeDirectory p) = none)
    (hlookup : h.lookup p = .ok (place, some .directory)) :
    (removeDirectory p).run.run h = (.ok (), h.update (h.files.remove place)) := by
  unfold removeDirectory
  rw [run_attempt]
  simp [permit, hpermit, hlookup, bind, Except.bind, pure, Except.pure]

theorem Sound.update_remove (hsound : h.Sound) (place : Place) :
    (h.update (h.files.remove place)).Sound :=
  ⟨hsound.grounded.remove place, hasCurrent_surviving _ _, hsound.names⟩

/-! ## Scratch directories and payload files -/

/-- The host takes the program's own temporary files and directories away when it is asked to. -/
def AllowsRemoval (h : Host) : Prop :=
  ∀ n, h.refuses (.removeFile (h.temporaryPath n)) = none
    ∧ h.refuses (.removeDirectory (h.temporaryPath n)) = none

/-- What the host takes away depends on its environment and its refusals. -/
theorem AllowsRemoval.of_same (h : AllowsRemoval h₀) (hplace : h'.cwd.place = h₀.cwd.place)
    (hrules : SameRules h₀ h') : AllowsRemoval h' := by
  intro n
  rw [hrules.refuses, (temporaryPath_congr hplace hrules.environment n).2]
  exact h n

/-- **A command keeps to its scratch directory**: below the directory for temporary files it changes
nothing but what is in the scratch directory, and it leaves what is there to be found and taken away.
It has no say in the program's current directory and environment. -/
structure KeepsToScratch (scratch : Option Path) (h h' : Host) : Prop where
  place : h'.cwd.place = h.cwd.place
  environment : h'.environment = h.environment
  sound : h.Sound → h'.Sound
  removable : h.AllowsRemoval → h'.AllowsRemoval
  /-- What a temporary path led to is found there again. -/
  found : ∀ n place node, h.lookup (h.temporaryPath n) = .ok (place, some node) →
    h'.lookup (h.temporaryPath n) = .ok (place, h'.files.get? place)
  within : ∀ q, h.temporaryPlace <+: q →
    (∀ dir ∈ scratch, h.placeOf dir <+: q → q = h.placeOf dir) →
    h'.files.get? q = h.files.get? q

/-- A command that leaves the host as it is. -/
theorem KeepsToScratch.refl (scratch : Option Path) (h : Host) : KeepsToScratch scratch h h := by
  refine ⟨rfl, rfl, id, id, ?_, fun _ _ _ => rfl⟩
  intro n place node hlookup
  obtain ⟨hplace, hnode⟩ := lookup_of_isAbsolute (isAbsolute_temporaryPath h n) hlookup
  rw [hlookup, hnode, nodeAt, hplace]

/-- What keeps the directories keeps to the scratch directory, if it changes nothing else. -/
theorem Keeps.keepsToScratch (hkeeps : h.Keeps h') (hrules : SameRules h h')
    (hwithin : ∀ q, h.temporaryPlace <+: q →
      (∀ dir ∈ scratch, h.placeOf dir <+: q → q = h.placeOf dir) →
      h'.files.get? q = h.files.get? q) : KeepsToScratch scratch h h' := by
  have hplace : h'.cwd.place = h.cwd.place := by rw [hkeeps.cwd]
  refine ⟨hplace, hrules.environment, hkeeps.sound, fun hallows => ?_, ?_, hwithin⟩
  · exact hallows.of_same hplace hrules
  intro n place node hlookup
  have habsolute := isAbsolute_temporaryPath h n
  have hwants := wantsDirectory_temporaryPath h n
  obtain ⟨hwhere, hnode⟩ := lookup_of_isAbsolute habsolute hlookup
  cases node with
  | directory =>
      have hthere : h.files.get? place = some .directory := by
        rw [hwhere]
        exact hnode.symm
      rw [hkeeps.directory place hthere]
      exact hkeeps.lookup_directory habsolute hwants hlookup
  | file f =>
      rw [hkeeps.lookup hlookup (by simp) hwants, nodeAt, hkeeps.placeOf, hwhere]

/-- **A path of the program's own**: a temporary path, where nothing was in the beginning. -/
structure IsOwn (h₀ : Host) (p : Path) : Prop where
  drawn : ∃ n, p = h₀.temporaryPath n
  fresh : h₀.nodeAt p = none

/-- **The directory for temporary files is accounted for**: below it nothing differs from the
beginning but a scratch directory with all it holds, and a payload file, each under a path of the
program's own. -/
structure Accounted (h₀ : Host) (scratch payload : Option Path) (h : Host) : Prop where
  place : h.cwd.place = h₀.cwd.place
  environment : h.environment = h₀.environment
  sound : h.Sound
  removable : h.AllowsRemoval
  same : ∀ q, h₀.temporaryPlace <+: q → (∀ dir ∈ scratch, ¬ h₀.placeOf dir <+: q) →
    (∀ p ∈ payload, q ≠ h₀.placeOf p) → h.files.get? q = h₀.files.get? q
  scratch : ∀ dir ∈ scratch, h₀.IsOwn dir
    ∧ h.lookup dir = .ok (h₀.placeOf dir, some .directory)
  payload : ∀ p ∈ payload, h₀.IsOwn p
    ∧ ∃ f, h.lookup p = .ok (h₀.placeOf p, some (.file f))

/-- **An archive apart** from the directory for temporary files: it is outside, and its path leads
through no place within that is yet to be made. -/
structure IsApart (h₀ : Host) (root : Path) : Prop where
  outside : ¬ h₀.temporaryPlace <+: h₀.placeOf root
  through : ∀ q, Place.OnWay h₀.cwd.place root q → h₀.temporaryPlace <+: q →
    q ≠ h₀.temporaryPlace → h₀.files.get? q ≠ none

/-- An archive that is outside is apart if its path does not go up. -/
theorem isApart_of_down {root : Path} (hdown : Path.parentName ∉ root.steps)
    (houtside : ¬ h₀.temporaryPlace <+: h₀.placeOf root) : h₀.IsApart root := by
  refine ⟨houtside, fun q hway hbelow _ => ?_⟩
  exact absurd (hbelow.trans (hway.isPrefix hdown)) houtside

theorem accounted_start (hsound : h₀.Sound) (hremovable : h₀.AllowsRemoval) :
    Accounted h₀ none none h₀ := by
  refine ⟨rfl, rfl, hsound, hremovable, fun _ _ _ _ => rfl, ?_, ?_⟩
  · exact forall_mem_none
  · exact forall_mem_none

/-! ## Paths of the program's own -/

section Own

variable (hstart : h₀.Sound)
include hstart

/-- The program's own paths lead one step down from the directory for temporary files. -/
theorem IsOwn.placeOf_eq (hown : h₀.IsOwn p) :
    ∃ name, h₀.placeOf p = h₀.temporaryPlace ++ [name] := by
  obtain ⟨n, rfl⟩ := hown.drawn
  exact ⟨_, placeOf_temporaryPath hstart n⟩

theorem temporaryPlace_above (n : Nat) :
    h₀.temporaryPlace <+: h₀.placeOf (h₀.temporaryPath n) := by
  rw [placeOf_temporaryPath hstart]
  exact List.prefix_append _ _

/-- Of two temporary paths neither leads into the other. -/
theorem temporaryPath_eq_of_below {m n : Nat}
    (hbelow : h₀.placeOf (h₀.temporaryPath m) <+: h₀.placeOf (h₀.temporaryPath n)) :
    h₀.placeOf (h₀.temporaryPath n) = h₀.placeOf (h₀.temporaryPath m) := by
  refine (hbelow.eq_of_length ?_).symm
  rw [placeOf_temporaryPath hstart, placeOf_temporaryPath hstart, List.length_append,
    List.length_append, List.length_singleton, List.length_singleton]

/-- The directory for temporary files is in none of them. -/
theorem IsOwn.not_below (hown : h₀.IsOwn p) : ¬ h₀.placeOf p <+: h₀.temporaryPlace := by
  intro hbelow
  obtain ⟨name, hplace⟩ := hown.placeOf_eq hstart
  have hlength := hbelow.length_le
  rw [hplace, List.length_append, List.length_singleton] at hlength
  omega

end Own

namespace Accounted

variable (ha : Accounted h₀ scratch payload h)
include ha

theorem placeOf_eq (p : Path) : h.placeOf p = h₀.placeOf p := by
  unfold Host.placeOf
  rw [ha.place]

theorem temporaryPath_eq (n : Nat) : h.temporaryPath n = h₀.temporaryPath n :=
  (temporaryPath_congr ha.place ha.environment n).2

theorem temporaryPlace_eq : h.temporaryPlace = h₀.temporaryPlace := by
  unfold temporaryPlace
  rw [(temporaryPath_congr ha.place ha.environment 0).1, ha.placeOf_eq]

/-- A path of the program's own is looked up where it leads. -/
theorem node_of_lookup (hown : h₀.IsOwn p) {node : Option Node}
    (hlookup : h.lookup p = .ok (h₀.placeOf p, node)) : h.files.get? (h₀.placeOf p) = node := by
  obtain ⟨n, rfl⟩ := hown.drawn
  rw [(lookup_of_isAbsolute (isAbsolute_temporaryPath h₀ n) hlookup).2, nodeAt, ha.placeOf_eq]

/-! ## Operations of the program -/

/-- **What keeps the directories** keeps the scratch directory; the rest is to be looked at. -/
theorem of_keeps {payload' : Option Path} (hkeeps : h.Keeps h') (hrules : SameRules h h')
    (hsame : ∀ q, h₀.temporaryPlace <+: q → (∀ dir ∈ scratch, ¬ h₀.placeOf dir <+: q) →
      (∀ p ∈ payload', q ≠ h₀.placeOf p) → h'.files.get? q = h₀.files.get? q)
    (hpayload : ∀ p ∈ payload', h₀.IsOwn p
      ∧ ∃ f, h'.lookup p = .ok (h₀.placeOf p, some (.file f))) :
    Accounted h₀ scratch payload' h' := by
  have hplace : h'.cwd.place = h.cwd.place := by rw [hkeeps.cwd]
  refine ⟨hplace.trans ha.place, hrules.environment.trans ha.environment, hkeeps.sound ha.sound,
    ha.removable.of_same hplace hrules, hsame, ?_, hpayload⟩
  intro dir hdir
  obtain ⟨hown, hlookup⟩ := ha.scratch dir hdir
  refine ⟨hown, ?_⟩
  obtain ⟨n, rfl⟩ := hown.drawn
  exact hkeeps.lookup_directory (isAbsolute_temporaryPath h₀ n)
    (wantsDirectory_temporaryPath h₀ n) hlookup

/-- The number that is drawn next plays no part. -/
theorem with_serial (serial : Nat) : Accounted h₀ scratch payload { h with serial } :=
  ha.of_keeps (keeps_serial h serial) ⟨rfl, rfl⟩ ha.same ha.payload

omit ha

theorem writePayload (ha : Accounted h₀ scratch (some p) h) {content : Octets}
    (hrun : (writeFile p content).run.run h = (.ok (), h')) :
    Accounted h₀ scratch (some p) h' := by
  obtain ⟨hkeeps, f, -, hmade⟩ := writeFile_makes hrun
  have hrules : SameRules h h' := by
    have hsteady := steady_writeFile p content h
    rwa [hrun] at hsteady
  rw [ha.placeOf_eq] at hmade
  refine ha.of_keeps hkeeps hrules ?_ ?_
  · intro q hq hout hother
    rw [hmade, if_neg (hother p rfl)]
    exact ha.same q hq hout hother
  · rintro _ ⟨⟩
    obtain ⟨hown, g, hlookup⟩ := ha.payload p rfl
    obtain ⟨n, rfl⟩ := hown.drawn
    have hagain := hkeeps.lookup hlookup (by simp) (wantsDirectory_temporaryPath h₀ n)
    rw [nodeAt, hkeeps.placeOf, ha.placeOf_eq, hmade, if_pos rfl] at hagain
    exact ⟨hown, f, hagain⟩

/-- **A payload file is taken away**, and is accounted for no more. -/
theorem removePayload (ha : Accounted h₀ scratch (some p) h) :
    ∃ h', (removeFile p).run.run h = (.ok (), h') ∧ Accounted h₀ scratch none h' := by
  obtain ⟨hown, f, hlookup⟩ := ha.payload p rfl
  have hpermit : h.refuses (.removeFile p) = none := by
    obtain ⟨n, rfl⟩ := hown.drawn
    rw [← ha.temporaryPath_eq]
    exact (ha.removable n).1
  rw [← ha.placeOf_eq] at hlookup
  have hrun := removeFile_of_lookup hpermit hlookup
  refine ⟨_, hrun, ?_⟩
  obtain ⟨hkeeps, -, hmade⟩ := removeFile_makes ha.sound hrun
  refine ha.of_keeps hkeeps ⟨rfl, rfl⟩ ?_ forall_mem_none
  intro q hq hout _
  rw [hmade, ha.placeOf_eq]
  split
  · next heq =>
    rw [heq]
    exact hown.fresh.symm
  · next hne =>
    refine ha.same q hq hout ?_
    rintro _ ⟨⟩
    exact hne

/-- **Storing** in an archive that is apart leaves the account as it is. -/
theorem store (ha : Accounted h₀ scratch none h)
    (hdirectory : h₀.files.get? h₀.temporaryPlace = some .directory) {a : Archive}
    (hapart : h₀.IsApart a.root) (bitcode : Path) :
    Accounted h₀ scratch none ((a.store bitcode).run.run h).2 := by
  obtain ⟨σ, hstore, hhost, -⟩ := Archive.exists_run_store a bitcode h
  have ho := Archive.Calls.orderly_run ha.sound hstore.alone
  have hrules := Archive.steady_store a bitcode h
  rw [← hhost] at hrules ⊢
  refine ha.of_keeps ho.keeps hrules ?_ forall_mem_none
  intro q hq hout hother
  have hsame := ha.same q hq hout hother
  by_cases hplace : q = h₀.temporaryPlace
  · rw [hplace] at hsame ⊢
    rw [hdirectory] at hsame ⊢
    exact ho.keeps.directory _ hsame
  -- a place directly in the archive is not in the directory for temporary files
  have hnotIn : ∀ name, q ≠ h.placeOf a.root ++ [name] := by
    rintro name rfl
    rw [ha.placeOf_eq] at hq hplace
    rcases List.prefix_concat_iff.1 hq with heq | hbelow
    · exact hplace heq.symm
    · exact hapart.outside hbelow
  rcases Archive.spares_alone ha.sound hstore.alone q with (hspared | hmade) | ⟨copy, hcopy, hq'⟩
      | ⟨-, hq'⟩
  · exact hspared.trans hsame
  · have hway := hmade.onWay
    rw [ha.place] at hway
    exact absurd (hsame.symm.trans hmade.before) (hapart.through q hway hq hplace)
  · obtain ⟨n, hn⟩ := (ho.holds () copy hcopy).1
    rw [ho.keeps.placeOf, ho.keeps.placeOf] at hn
    exact absurd (hq'.trans hn) (hnotIn _)
  · rw [Archive.placeOf_entry] at hq'
    exact absurd hq' (hnotIn _)

end Accounted

section Operations

variable (hstart : h₀.Sound)
include hstart

namespace Accounted

/-- **What is drawn is a path of the program's own**: where nothing is now, nothing was. -/
theorem isOwn_drawn (ha : Accounted h₀ scratch none h) {base : Path} {n : Nat}
    (hbase : h.absoluteBase h.temporaryDirectory = .ok base)
    (hp : p = base.join ⟨temporaryLead ++ sixDigits n⟩) (hnone : h.nodeAt p = none) :
    h₀.IsOwn p := by
  rw [drawn_eq_temporaryPath hbase, ha.temporaryPath_eq] at hp
  subst hp
  refine ⟨⟨n, rfl⟩, ?_⟩
  rw [nodeAt, ha.placeOf_eq] at hnone
  refine (ha.same _ (temporaryPlace_above hstart n) ?_ ?_).symm.trans hnone
  · -- the scratch directory would be the same place, which holds nothing
    intro dir hdir hbelow
    obtain ⟨hown, hlookup⟩ := ha.scratch dir hdir
    have hthere := ha.node_of_lookup hown hlookup
    obtain ⟨k, rfl⟩ := hown.drawn
    rw [← temporaryPath_eq_of_below hstart hbelow, hnone] at hthere
    cases hthere
  · exact forall_mem_none

/-- **A command that keeps to its scratch directory** leaves the account as it is. -/
theorem command (ha : Accounted h₀ scratch payload h) (hk : KeepsToScratch scratch h h') :
    Accounted h₀ scratch payload h' := by
  have hwithin : ∀ q, h₀.temporaryPlace <+: q →
      (∀ dir ∈ scratch, h₀.placeOf dir <+: q → q = h₀.placeOf dir) →
      h'.files.get? q = h.files.get? q := by
    intro q hq hinside
    refine hk.within q ?_ fun dir hdir hbelow => ?_
    · rwa [ha.temporaryPlace_eq]
    · rw [ha.placeOf_eq] at hbelow ⊢
      exact hinside dir hdir hbelow
  -- what a path of the program's own led to, it leads to again
  have hagain : ∀ p node, h₀.IsOwn p → h.lookup p = .ok (h₀.placeOf p, some node) →
      h'.lookup p = .ok (h₀.placeOf p, some node) := by
    intro p node hown hlookup
    have hnode := ha.node_of_lookup hown hlookup
    obtain ⟨n, rfl⟩ := hown.drawn
    have hsame := hwithin _ (temporaryPlace_above hstart n) fun dir hdir hbelow => by
      obtain ⟨k, rfl⟩ := (ha.scratch dir hdir).1.drawn
      exact temporaryPath_eq_of_below hstart hbelow
    rw [← ha.temporaryPath_eq] at hlookup ⊢
    rw [hk.found n _ node hlookup, ha.temporaryPath_eq, hsame, hnode]
  refine ⟨hk.place.trans ha.place, hk.environment.trans ha.environment, hk.sound ha.sound,
    hk.removable ha.removable, ?_, ?_, ?_⟩
  · intro q hq hout hother
    rw [← ha.same q hq hout hother]
    exact hwithin q hq fun dir hdir hbelow => absurd hbelow (hout dir hdir)
  · intro dir hdir
    obtain ⟨hown, hlookup⟩ := ha.scratch dir hdir
    exact ⟨hown, hagain dir _ hown hlookup⟩
  · intro p hp
    obtain ⟨hown, f, hlookup⟩ := ha.payload p hp
    exact ⟨hown, f, hagain p _ hown hlookup⟩

/-! ## Payload files -/

theorem createPayload (ha : Accounted h₀ scratch none h)
    (hrun : (createTemporaryFile temporaryLead h.temporaryDirectory).run.run h = (.ok p, h')) :
    Accounted h₀ scratch (some p) h' := by
  obtain ⟨hkeeps, hnone, -, hlookup, hmade⟩ :=
    createTemporaryFile_makes slash_not_mem_temporaryLead ha.sound hrun
  have hrules : SameRules h h' := by
    have hsteady := steady_createTemporaryFile temporaryLead h.temporaryDirectory h
    rwa [hrun] at hsteady
  rcases run_createTemporaryFile hrun with ⟨-, fault, hfault⟩ | ⟨base, n, hbase, hcases⟩
  · cases hfault
  rcases hcases with ⟨fault, hfault, -⟩ | ⟨hp, -⟩
  · cases hfault
  have hown := ha.isOwn_drawn hstart hbase (Except.ok.inj hp) hnone
  rw [ha.placeOf_eq] at hlookup hmade
  refine ha.of_keeps hkeeps hrules ?_ ?_
  · intro q hq hout hother
    rw [hmade, if_neg (hother p rfl)]
    exact ha.same q hq hout forall_mem_none
  · rintro _ ⟨⟩
    exact ⟨hown, _, hlookup⟩

/-- The directory for temporary files was there if there is a payload file. -/
theorem directory_of_payload (ha : Accounted h₀ scratch (some p) h) :
    h₀.files.get? h₀.temporaryPlace = some .directory := by
  obtain ⟨hown, f, hlookup⟩ := ha.payload p rfl
  have habove := ha.sound.grounded _ _ (ha.node_of_lookup hown hlookup)
  obtain ⟨name, hplace⟩ := hown.placeOf_eq hstart
  rw [hplace, List.dropLast_concat] at habove
  rw [← habove]
  refine (ha.same _ (List.prefix_refl _) ?_ ?_).symm
  · exact fun dir hdir => (ha.scratch dir hdir).1.not_below hstart
  · rintro _ ⟨⟩ heq
    rw [heq] at hplace
    have hlength := congrArg List.length hplace
    rw [List.length_append, List.length_singleton] at hlength
    omega

/-- **A payload that is written** is the file of a path of the program's own. -/
theorem writePayload_ok (ha : Accounted h₀ scratch none h) {bitcode : Path}
    (hrun : (Attachment.writePayload bitcode).run.run h = (.ok p, h')) :
    Accounted h₀ scratch (some p) h' ∧ h'.contentAt? p = some (payloadOf bitcode) := by
  refine ⟨?_, (Attachment.writePayload_ok hrun).2⟩
  rcases run_writePayload hrun with ⟨fault, hfault, -⟩ | ⟨payload, between, hcreate, hcases⟩
  · cases hfault
  rcases hcases with ⟨hresult, hwrite⟩ | ⟨⟨fault, hfault⟩, -⟩
  · cases hresult
    exact (ha.createPayload hstart hcreate).writePayload hwrite
  · cases hfault

/-- **A payload that cannot be written** leaves nothing. -/
theorem writePayload_error (ha : Accounted h₀ scratch none h) {bitcode : Path} {fault : Fault}
    (hrun : (Attachment.writePayload bitcode).run.run h = (.error fault, h')) :
    Accounted h₀ scratch none h' := by
  rcases run_writePayload hrun with ⟨cause, -, hcreate⟩ | ⟨p, between, hcreate, hcases⟩
  · rcases run_createTemporaryFile hcreate with ⟨rfl, -⟩ | ⟨base, n, -, ⟨_, -, rfl⟩ | ⟨hok, -⟩⟩
    · exact ha
    · exact ha.with_serial _
    · cases hok
  rcases hcases with ⟨hok, -⟩ | ⟨-, rfl⟩
  · cases hok
  obtain ⟨after, hremove, hafter⟩ := (ha.createPayload hstart hcreate).removePayload
  rw [hremove]
  exact hafter

/-! ## The scratch directory -/

/-- **A scratch directory that is made** is under a path of the program's own. -/
theorem createScratch (ha : Accounted h₀ none none h)
    (hrun : (createTemporaryDirectory temporaryLead h.temporaryDirectory).run.run h
      = (.ok p, h')) : Accounted h₀ (some p) none h' := by
  obtain ⟨hkeeps, hnone, ⟨base, n, hbase, hp, -⟩, hlookup, hmade⟩ :=
    createTemporaryDirectory_makes slash_not_mem_temporaryLead hrun
  have hrules : SameRules h h' := by
    have hsteady := steady_createTemporaryDirectory temporaryLead h.temporaryDirectory h
    rwa [hrun] at hsteady
  have hown := ha.isOwn_drawn hstart hbase hp hnone
  rw [ha.placeOf_eq] at hlookup hmade
  have hplace : h'.cwd.place = h.cwd.place := by rw [hkeeps.cwd]
  refine ⟨hplace.trans ha.place, hrules.environment.trans ha.environment, hkeeps.sound ha.sound,
    ha.removable.of_same hplace hrules, ?_, ?_, ?_⟩
  · intro q hq hout hother
    rw [hmade, if_neg]
    · exact ha.same q hq forall_mem_none hother
    · rintro rfl
      exact hout p rfl (List.prefix_refl _)
  · rintro _ ⟨⟩
    exact ⟨hown, hlookup⟩
  · exact forall_mem_none

/-- **The scratch directory is taken away**, and all is as it was. -/
theorem removeScratch (ha : Accounted h₀ (some p) none h) :
    ∃ h', (removeDirectory p).run.run h = (.ok (), h') ∧ Accounted h₀ none none h' := by
  obtain ⟨hown, hlookup⟩ := ha.scratch p rfl
  have hpermit : h.refuses (.removeDirectory p) = none := by
    obtain ⟨n, rfl⟩ := hown.drawn
    rw [← ha.temporaryPath_eq]
    exact (ha.removable n).2
  refine ⟨_, removeDirectory_of_lookup hpermit hlookup, ?_⟩
  refine ⟨ha.place, ha.environment, ha.sound.update_remove _,
    ha.removable.of_same rfl ⟨rfl, rfl⟩, ?_, ?_, ?_⟩
  · intro q hq _ hother
    show (h.files.remove (h₀.placeOf p)).get? q = h₀.files.get? q
    by_cases hroot : q = []
    · rw [hroot]
      rfl
    rw [get?_remove _ _ _ hroot]
    split
    · next hbelow =>
      -- nothing was there, so nothing was below
      have hfresh : h₀.files.get? (h₀.placeOf p) = none := hown.fresh
      by_cases hq : q = h₀.placeOf p
      · rw [hq, hfresh]
      · refine (hstart.grounded.get?_below ?_ q hbelow hq).symm
        rw [hfresh]
        simp
    · next hout =>
      refine ha.same q hq ?_ hother
      rintro _ ⟨⟩
      exact hout
  · exact forall_mem_none
  · exact forall_mem_none

end Accounted

end Operations

end Host

end TwinBuild
