import TwinBuild.Proofs.ArchiveWriters
import TwinBuild.Proofs.TemporaryPaths

/-!
# What an archive holds over its history

Calls store bitcode one after the other. Any step of a call can fail, and a call can stop for good.
Between the calls, files outside the archive are written again or taken away. An entry holds what
its bitcode file held when the last successful call for it began.

Main statement: `entry_last_stored`.
-/

namespace TwinBuild

namespace Archive

open Phase Calls

variable {a : Archive} {bitcode : Path} {h h' h₀ : Host} {σ σ' : Calls Unit}

/-! ## One call -/

/-- A call by itself spares every place but that of its copy and, when it has succeeded, that of
its entry. -/
theorem spares_alone (hsound : h.Sound) (hrun : Alone a bitcode (.initial h) σ) (q : Place) :
    Host.Spares a.root h σ.host q
    ∨ (∃ copy, (σ.phase ()).copy? = some copy ∧ q = h.placeOf copy)
    ∨ ((∃ source, σ.phase () = .succeeded source) ∧ q = h.placeOf (a.entry bitcode)) := by
  have ho := orderly_run hsound hrun
  rcases ho.node q with hspares | ⟨_, copy, hcopy, hplace⟩ | ⟨_, g, f, hplace, hphase, -⟩
  · exact .inl hspares
  · rw [ho.keeps.placeOf] at hplace
    exact .inr (.inl ⟨copy, hcopy, hplace⟩)
  · rw [ho.keeps.placeOf] at hplace
    exact .inr (.inr ⟨⟨_, hphase⟩, hplace⟩)

/-- **What a call by itself has opened** is what its bitcode file held when the call began. -/
theorem content_alone (hsound : h.Sound) (hrun : Alone a bitcode (.initial h) σ) {g : File}
    (hs : (σ.phase ()).source? = some (.file g)) : h.contentOf? bitcode = some g.content := by
  refine content_opened hsound le_rfl (i := ()) ?_ hrun hs
  -- before a call opens its file it has no copy, so that all is spared
  intro σ hrun hphase
  have hplace := (orderly_run hsound hrun).keeps.placeOf bitcode
  rcases spares_alone hsound hrun (h.placeOf bitcode) with hspared | ⟨copy, hcopy, -⟩
      | ⟨⟨source, hsucceeded⟩, -⟩
  · exact hspared.contentOf? hplace
  · rw [hphase] at hcopy
    cases hcopy
  · rw [hphase] at hsucceeded
    cases hsucceeded

/-- A call by itself that has succeeded has made its entry whole. -/
theorem whole_alone (hsound : h.Sound) (hrun : Alone a bitcode (.initial h) σ) {source : Node}
    (hs : σ.phase () = .succeeded source) : a.IsWhole h σ.host bitcode := by
  have ho := orderly_run hsound hrun
  obtain ⟨_, g, -, hphase, hcontent⟩ := ho.entry_of_succeeded hs
  exact ⟨g.content, content_alone hsound hrun (by rw [hphase]; rfl), hcontent⟩

/-! ## Copies that are left -/

/-- The call has not failed with a copy left. -/
def Phase.IsClean (φ : Phase) : Prop := ∀ error left, φ = .failed error left → left = none

/-- **A call takes its copy away** when it fails, unless the host refuses that. -/
theorem clean_step {φ : Phase} (hholds : φ.Holds a h)
    (hpermit : ∀ copy, φ.copy? = some copy → h.refuses (.removeFile copy) = none)
    (hclean : φ.IsClean) (n : Nat) : (φ.step a bitcode n h).1.IsClean := by
  cases φ with
  | dropping copy error =>
      refine of_proceed (P := fun φ _ => φ.IsClean) (by simp [IsClean]) ?_
      intro fault h' hrun
      obtain ⟨-, f, hfound, -⟩ := hholds copy rfl
      rw [Host.removeFile_of_lookup (hpermit copy rfl) hfound] at hrun
      cases hrun
  | copying source copy written =>
      refine of_proceed (P := fun φ _ => φ.IsClean) ?_ (by simp [IsClean])
      intro φ' h' hrun
      obtain ⟨g, -, ⟨rfl, -⟩ | ⟨written', rfl, -⟩⟩ := pass_ok hrun
      · simp [IsClean]
      · simp [IsClean]
  | succeeded source => exact hclean
  | failed error left => exact hclean
  | _ => exact of_proceed (P := fun φ _ => φ.IsClean) (by simp [IsClean]) (by simp [IsClean])

/-- A step of a call by itself, on a host that lets it take its copy away. -/
def Tidy (a : Archive) (bitcode : Path) (σ σ' : Calls Unit) : Prop :=
  Step a (fun _ => bitcode) σ σ'
  ∧ ∀ copy, (σ.phase ()).copy? = some copy → σ.host.refuses (.removeFile copy) = none

theorem tidy_le : Tidy a bitcode ≤ Step a fun _ => bitcode := fun _ _ hstep => hstep.1

theorem clean_of_tidy (hsound : h.Sound)
    (hrun : Relation.ReflTransGen (Tidy a bitcode) (.initial h) σ) : (σ.phase ()).IsClean := by
  induction hrun with
  | refl => simp [IsClean, Calls.initial]
  | @tail σ σ' hrun hstep ih =>
      have ho := orderly_run hsound (Relation.ReflTransGen.mono tidy_le _ _ hrun)
      obtain ⟨hstep, hpermit⟩ := hstep
      cases hstep with
      | call i n own _ =>
          have hclean : ((σ.phase ()).step a bitcode n σ.host).1.IsClean :=
            clean_step (ho.holds ()) hpermit ih n
          rw [own] at hclean
          exact hclean
      | host => exact ih

/-- **A call that nothing comes in between is tidy** on a host that lets staged copies be taken
away. -/
theorem tidy_of_inOneGo (hsound : h.Sound)
    (hpermit : ∀ copy, a.IsStaged h copy → h.refuses (.removeFile copy) = none)
    (hrun : InOneGo a bitcode (.initial h) σ) :
    Relation.ReflTransGen (Tidy a bitcode) (.initial h) σ := by
  induction hrun with
  | refl => exact .refl
  | @tail σ₁ σ₂ hrun hstep ih =>
      refine ih.tail ⟨ownStep_le _ _ hstep, fun copy hcopy => ?_⟩
      have ho := orderly_run hsound (InOneGo.alone hrun)
      have hstaged : a.IsStaged h copy := (isStaged_iff ho.keeps).1 (ho.holds () copy hcopy).1
      rw [(sameRules_inOneGo hrun).refuses]
      exact hpermit copy hstaged

/-- A place whose name is that of a staged copy. -/
def IsStagedPlace (q : Place) : Prop := ∃ above rest, q = above ++ [stagedLead ++ rest]

theorem not_isStagedPlace_entry (a : Archive) (h : Host) (p : Path) :
    ¬ IsStagedPlace (h.placeOf (a.entry p)) := by
  rintro ⟨above, rest, hplace⟩
  rw [placeOf_entry] at hplace
  have hname := (List.append_inj' hplace rfl).2
  exact entryName_ne_staged p rest (List.cons.inj hname).1

/-- **No staged copy is left** by a call that has finished. -/
theorem staged_before (hsound : h.Sound)
    (hrun : Relation.ReflTransGen (Tidy a bitcode) (.initial h) σ)
    (hfinished : (σ.phase ()).answer? a bitcode ≠ none) {q : Place} (hq : IsStagedPlace q)
    {f : File} (hfile : σ.host.files.get? q = some (.file f)) :
    h.files.get? q = some (.file f) := by
  have halone : Alone a bitcode (.initial h) σ := Relation.ReflTransGen.mono tidy_le _ _ hrun
  rcases spares_alone hsound halone q with (hsame | ⟨-, hdirectory, -⟩)
      | ⟨copy, hcopy, -⟩ | ⟨-, rfl⟩
  · rw [← hsame]
    exact hfile
  · rw [hfile] at hdirectory
    cases hdirectory
  · -- a call that has finished has no copy but one that it has left
    have hclean := clean_of_tidy hsound hrun
    cases hphase : σ.phase () with
    | failed error left =>
        rw [hphase] at hcopy hclean
        rw [hclean error left rfl] at hcopy
        cases hcopy
    | succeeded source =>
        rw [hphase] at hcopy
        cases hcopy
    | _ =>
        rw [hphase] at hfinished
        exact absurd rfl hfinished
  · exact absurd hq (not_isStagedPlace_entry a h bitcode)

/-! ## Histories -/

/-- **Something else happens**, outside the archive. -/
structure Elsewhere (a : Archive) (h h' : Host) : Prop where
  cwd : h'.cwd = h.cwd
  sound : h'.Sound
  inside : ∀ q, h.placeOf a.root <+: q → h'.files.get? q = h.files.get? q

/-- What changes one place outside the archive happens elsewhere. -/
theorem Elsewhere.of_place (hsound : h.Sound) (hkeeps : h.Keeps h') {place : Place}
    (hother : ∀ q, q ≠ place → h'.files.get? q = h.files.get? q)
    (houtside : ¬ h.placeOf a.root <+: place) : Elsewhere a h h' := by
  refine ⟨hkeeps.cwd, hkeeps.sound hsound, fun q hq => hother q ?_⟩
  rintro rfl
  exact houtside hq

/-- **Writing a file** outside the archive happens elsewhere. -/
theorem elsewhere_writeFile (hsound : h.Sound) {p : Path} (content : Octets)
    (houtside : ¬ h.placeOf a.root <+: h.placeOf p) :
    Elsewhere a h ((Host.writeFile p content).run.run h).2 := by
  generalize hrun : (Host.writeFile p content).run.run h = answer
  obtain ⟨fault | _, h'⟩ := answer
  · rw [Host.attempt_error hrun]
    exact .of_place hsound (.refl h) (fun _ _ => rfl) houtside
  · obtain ⟨hkeeps, f, -, hmade⟩ := Host.writeFile_makes hrun
    refine .of_place hsound hkeeps (fun q hq => ?_) houtside
    rw [hmade, if_neg hq]

/-- **Taking a file away** outside the archive happens elsewhere. -/
theorem elsewhere_removeFile (hsound : h.Sound) {p : Path}
    (houtside : ¬ h.placeOf a.root <+: h.placeOf p) :
    Elsewhere a h ((Host.removeFile p).run.run h).2 := by
  generalize hrun : (Host.removeFile p).run.run h = answer
  obtain ⟨fault | _, h'⟩ := answer
  · rw [Host.attempt_error hrun]
    exact .of_place hsound (.refl h) (fun _ _ => rfl) houtside
  · obtain ⟨hkeeps, -, hmade⟩ := Host.removeFile_makes hsound hrun
    refine .of_place hsound hkeeps (fun q hq => ?_) houtside
    rw [hmade, if_neg hq]

/-- The host comes to refuse other operations. -/
theorem elsewhere_refuses (hsound : h.Sound) (refuses : Operation → Option Errno) :
    Elsewhere a h { h with refuses } :=
  ⟨rfl, ⟨hsound.grounded, hsound.current, hsound.names⟩, fun _ _ => rfl⟩

/-- What a call adds to what has been stored: once it has succeeded, the content that its bitcode
file had when it began. -/
def record (stored : Path → Option Octets) (bitcode : Path) (h : Host) :
    Phase → Path → Option Octets
  | .succeeded _ => Function.update stored bitcode (h.contentOf? bitcode)
  | _ => stored

/-- **What can happen to an archive**, and what the last successful call for each path has stored.
A call may have come to any of its phases when the next thing happens. -/
inductive History (a : Archive) (keys : Set Path) (h₀ : Host) :
    (Path → Option Octets) → Host → Prop
  | start : History a keys h₀ (fun _ => none) h₀
  | call {stored : Path → Option Octets} {h : Host} {bitcode : Path} {σ : Calls Unit}
      (earlier : History a keys h₀ stored h) (key : bitcode ∈ keys)
      (run : Alone a bitcode (.initial h) σ) :
    History a keys h₀ (record stored bitcode h (σ.phase ())) σ.host
  | elsewhere {stored : Path → Option Octets} {h h' : Host}
      (earlier : History a keys h₀ stored h) (change : Elsewhere a h h') :
    History a keys h₀ stored h'

variable {keys : Set Path} {stored : Path → Option Octets}

/-- A call of `store` that succeeds is the next thing that happens. -/
theorem History.store_ok (earlier : History a keys h₀ stored h) (hkey : bitcode ∈ keys)
    {entry : Path} (hok : ((a.store bitcode).run.run h).1 = .ok entry) :
    History a keys h₀ (Function.update stored bitcode (h.contentOf? bitcode))
      ((a.store bitcode).run.run h).2 := by
  obtain ⟨σ, hrun, hhost, hanswer⟩ := exists_run_store a bitcode h
  rw [hok] at hanswer
  obtain ⟨⟨source, hphase⟩, -⟩ := Phase.answer?_ok hanswer
  have hnext := earlier.call hkey hrun.alone
  rw [hphase, hhost] at hnext
  exact hnext

/-- A call of `store` that fails is the next thing that happens. -/
theorem History.store_error (earlier : History a keys h₀ stored h) (hkey : bitcode ∈ keys)
    {error : ArchiveError} (herror : ((a.store bitcode).run.run h).1 = .error error) :
    History a keys h₀ stored ((a.store bitcode).run.run h).2 := by
  obtain ⟨σ, hrun, hhost, hanswer⟩ := exists_run_store a bitcode h
  rw [herror] at hanswer
  obtain ⟨left, hphase⟩ := Phase.answer?_error hanswer
  have hnext := earlier.call hkey hrun.alone
  rw [hphase, hhost] at hnext
  exact hnext

theorem History.sound (hsound : h₀.Sound) (hhistory : History a keys h₀ stored h) : h.Sound := by
  induction hhistory with
  | start => exact hsound
  | call _ _ run ih => exact (orderly_run ih run).keeps.sound ih
  | elsewhere _ change _ => exact change.sound

/-- **What stands in an entry**: the content that was stored last, or what stood there in the
beginning. -/
def Stands (a : Archive) (h₀ h : Host) (p : Path) : Option Octets → Prop
  | some content => h.contentOf? (a.entry p) = some content
  | none => a.Leaves h₀ h p

theorem Leaves.trans {h h' h'' : Host} {p : Path} (hfirst : a.Leaves h h' p)
    (hsecond : a.Leaves h' h'' p) : a.Leaves h h'' p :=
  ⟨hsecond.1.trans hfirst.1, fun hdown => (hsecond.2 hdown).trans (hfirst.2 hdown)⟩

theorem Stands.of_leaves {p : Path} {content : Option Octets} (hstands : a.Stands h₀ h p content)
    (hleaves : a.Leaves h h' p) : a.Stands h₀ h' p content := by
  cases content with
  | none => exact hstands.trans hleaves
  | some content => exact hleaves.1.trans hstands

/-- What happens elsewhere changes no entry. -/
theorem Elsewhere.leaves (hchange : Elsewhere a h h') (p : Path) : a.Leaves h h' p := by
  have hplace : h'.placeOf (a.entry p) = h.placeOf (a.entry p) := by
    unfold Host.placeOf
    rw [hchange.cwd]
  refine .of_spares (.inl (hchange.inside _ ?_)) hplace
  rw [placeOf_entry]
  exact List.prefix_append _ _

/-- **What a call does to an entry** is what it adds to what has been stored. -/
theorem stands_call (hsound : h.Sound) {p : Path}
    (hdigest : Sha256.digest bitcode.text = Sha256.digest p.text → bitcode = p)
    (hstands : a.Stands h₀ h p (stored p)) (hrun : Alone a bitcode (.initial h) σ) :
    a.Stands h₀ σ.host p (record stored bitcode h (σ.phase ()) p) := by
  have ho := orderly_run hsound hrun
  by_cases hsucceeded : bitcode = p ∧ ∃ source, σ.phase () = .succeeded source
  · obtain ⟨rfl, source, hphase⟩ := hsucceeded
    obtain ⟨content, hbefore, hentry⟩ := whole_alone hsound hrun hphase
    rw [hphase, record, Function.update_self, hbefore]
    exact hentry
  · -- nothing is added for this path, and its entry is left alone
    have hrecord : record stored bitcode h (σ.phase ()) p = stored p := by
      cases hphase : σ.phase () with
      | succeeded source =>
          have hne : p ≠ bitcode := fun hp => hsucceeded ⟨hp.symm, source, hphase⟩
          exact Function.update_of_ne hne _ _
      | _ => rfl
    rw [hrecord]
    rcases ho.entry p with hleaves | ⟨_, g, hname, hphase, -⟩
    · exact hstands.of_leaves hleaves
    · exact absurd ⟨hdigest (entryName_inj hname), _, hphase⟩ hsucceeded

/-- **Every history** keeps the entries in step with what has been stored. -/
theorem stands_history (hsound : h₀.Sound)
    (hdigest : ∀ p ∈ keys, ∀ q ∈ keys,
      Sha256.digest p.text = Sha256.digest q.text → p = q)
    (hhistory : History a keys h₀ stored h) {p : Path} (hp : p ∈ keys) :
    a.Stands h₀ h p (stored p) := by
  induction hhistory with
  | start => exact .of_spares (.inl rfl) rfl
  | call earlier key run ih =>
      exact stands_call (earlier.sound hsound) (hdigest _ key p hp) ih run
  | elsewhere _ change ih => exact ih.of_leaves (change.leaves p)

/-- **An entry holds what was stored last.** Whatever has happened to an archive, each entry holds
the content that its path had when the last successful call for it began, and what it held in the
beginning if there was none. From there on, a call that fails leaves every file as it is, but for a
copy that it cannot take away; a call that succeeds answers the path of its entry, has made it
whole, and leaves every other file as it is; no finished call leaves a staged copy, where the host
lets it take its copy away; and `store` is such a call, on a host that lets staged copies be taken
away one that leaves none. -/
theorem entry_last_stored (hsound : h₀.Sound)
    (hdigest : ∀ p ∈ keys, ∀ q ∈ keys,
      Sha256.digest p.text = Sha256.digest q.text → p = q)
    (hhistory : History a keys h₀ stored h) :
    (∀ p ∈ keys, a.Stands h₀ h p (stored p))
    ∧ (∀ p σ, Alone a p (.initial h) σ →
      (∀ error left, σ.phase () = .failed error left →
        ∀ q, Host.Spares a.root h σ.host q ∨ ∃ copy, left = some copy ∧ q = h.placeOf copy)
      ∧ ∀ entry, (σ.phase ()).answer? a p = some (.ok entry) →
        entry = a.entry p ∧ a.IsWhole h σ.host p
        ∧ ∀ q, q ≠ h.placeOf entry → Host.Spares a.root h σ.host q)
    ∧ (∀ p σ, Relation.ReflTransGen (Tidy a p) (.initial h) σ →
      (σ.phase ()).answer? a p ≠ none → (σ.phase ()).IsClean
      ∧ ∀ q f, IsStagedPlace q → σ.host.files.get? q = some (.file f) →
        h.files.get? q = some (.file f))
    ∧ ∀ p, ∃ σ, Alone a p (.initial h) σ ∧ σ.host = ((a.store p).run.run h).2
      ∧ (σ.phase ()).answer? a p = some ((a.store p).run.run h).1
      ∧ ((∀ copy, a.IsStaged h copy → h.refuses (.removeFile copy) = none) →
        Relation.ReflTransGen (Tidy a p) (.initial h) σ) := by
  have hsound' := hhistory.sound hsound
  refine ⟨fun p hp => stands_history hsound hdigest hhistory hp, ?_, ?_, ?_⟩
  · intro p σ hrun
    constructor
    · intro error left hphase q
      have hspares := spares_alone hsound' hrun q
      rw [hphase] at hspares
      rcases hspares with hspares | hcopy | ⟨⟨source, hsucceeded⟩, -⟩
      · exact .inl hspares
      · exact .inr hcopy
      · cases hsucceeded
    · intro entry hanswer
      obtain ⟨⟨source, hphase⟩, rfl⟩ := Phase.answer?_ok hanswer
      refine ⟨rfl, whole_alone hsound' hrun hphase, ?_⟩
      intro q hq
      have hspares := spares_alone hsound' hrun q
      rw [hphase] at hspares
      rcases hspares with hspares | ⟨copy, hcopy, -⟩ | ⟨-, hplace⟩
      · exact hspares
      · cases hcopy
      · exact absurd hplace hq
  · intro p σ hrun hfinished
    exact ⟨clean_of_tidy hsound' hrun, fun q f hq hfile =>
      staged_before hsound' hrun hfinished hq hfile⟩
  · intro p
    obtain ⟨σ, hrun, hhost, hanswer⟩ := exists_run_store a p h
    exact ⟨σ, hrun.alone, hhost, hanswer, fun hpermit => tidy_of_inOneGo hsound' hpermit hrun⟩

/-- An archive, and a file that is stored there. -/
def shelf : Archive := ⟨.ofString "/s"⟩

def shelved : Path := .ofString "/w/a.bc"

/-- A disk that flushes nothing. -/
def brokenDisk : Operation → Option Errno
  | .syncFile _ => some ⟨5⟩
  | _ => none

/-- The host after the file has been stored and written again, when its disk is broken. -/
def rewritten : Host :=
  { ((Host.writeFile shelved [9]).run.run ((shelf.store shelved).run.run twoFiles).2).2 with
    refuses := brokenDisk }

/-- The host after the file could not be stored again. -/
def unstored : Host := ((shelf.store shelved).run.run rewritten).2

/-- The host after the file was taken away. -/
def cleared : Host := ((Host.removeFile shelved).run.run unstored).2

/-- A file is stored, written again, cannot be stored again, and is taken away: its entry holds what
was stored. -/
theorem entry_last_stored_broken_disk :
    ∃ last, History shelf {shelved, .ofString "/w/b.bc"} twoFiles last unstored
      ∧ History shelf {shelved, .ofString "/w/b.bc"} twoFiles last cleared
      ∧ last shelved = some [1, 2]
      ∧ unstored.contentOf? shelved = some [9]
      ∧ unstored.contentOf? (shelf.entry shelved) = some [1, 2]
      ∧ cleared.contentOf? shelved = none
      ∧ cleared.contentOf? (shelf.entry shelved) = some [1, 2] := by
  have hok : ((shelf.store shelved).run.run twoFiles).1 = .ok (shelf.entry shelved) := by
    decide +kernel
  have herror : ((shelf.store shelved).run.run rewritten).1
      = .error (.sync (shelf.entry shelved) (.refused ⟨5⟩)) := by
    decide +kernel
  have hstart : History shelf {shelved, .ofString "/w/b.bc"} twoFiles _ twoFiles := .start
  have hstored := hstart.store_ok (.inl rfl) hok
  have hwritten := hstored.elsewhere (elsewhere_writeFile (p := shelved)
    (hstored.sound sound_twoFiles) [9] (by decide +kernel))
  have hrewritten : History shelf {shelved, .ofString "/w/b.bc"} twoFiles _ rewritten :=
    hwritten.elsewhere (elsewhere_refuses (hwritten.sound sound_twoFiles) brokenDisk)
  have hunstored : History shelf {shelved, .ofString "/w/b.bc"} twoFiles _ unstored :=
    hrewritten.store_error (.inl rfl) herror
  have hcleared : History shelf {shelved, .ofString "/w/b.bc"} twoFiles _ cleared :=
    hunstored.elsewhere (elsewhere_removeFile (p := shelved)
      (hunstored.sound sound_twoFiles) (by decide +kernel))
  have hother : Sha256.digest shelved.text ≠ Sha256.digest (Path.ofString "/w/b.bc").text := by
    decide +kernel
  have hdigest : ∀ p ∈ ({shelved, .ofString "/w/b.bc"} : Set Path),
      ∀ q ∈ ({shelved, .ofString "/w/b.bc"} : Set Path),
      Sha256.digest p.text = Sha256.digest q.text → p = q := by
    rintro p (rfl | rfl) q (rfl | rfl) hsame
    · rfl
    · exact absurd hsame hother
    · exact absurd hsame.symm hother
    · rfl
  have hlast : Function.update (fun _ => none) shelved (twoFiles.contentOf? shelved) shelved
      = some [1, 2] := by
    rw [Function.update_self]
    decide +kernel
  have hstands := (entry_last_stored sound_twoFiles hdigest hunstored).1 shelved (.inl rfl)
  have hstill := (entry_last_stored sound_twoFiles hdigest hcleared).1 shelved (.inl rfl)
  rw [hlast] at hstands hstill
  exact ⟨_, hunstored, hcleared, hlast, by decide +kernel, hstands, by decide +kernel, hstill⟩

end Archive

end TwinBuild
