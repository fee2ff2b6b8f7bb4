import Mathlib.Data.Fintype.Basic
import Mathlib.Logic.Relation
import Mathlib.Tactic.FinCases
import TwinBuild.Proofs.StagedCopies

/-!
# Calls beside each other

Any number of calls store bitcode in one archive. Each has a staged copy of its own, so what stands
in the place of an entry is what stood there before, or all of what a call for it has opened.

Main statements: `orderly_run`, what holds in every order of steps, and `entry_whole`.
-/

namespace TwinBuild

namespace Archive

namespace Calls

open Phase

variable {ι : Type} {a : Archive} {bitcode : ι → Path} {h₀ : Host} {σ σ' : Calls ι}

/-- **What holds of calls in every state**, against the host that they began on. -/
structure Orderly (a : Archive) (bitcode : ι → Path) (h₀ : Host) (σ : Calls ι) : Prop where
  keeps : h₀.Keeps σ.host
  holds : ∀ i, (σ.phase i).Holds a σ.host
  /-- No two calls have the same copy. -/
  apart : ∀ i j c d, (σ.phase i).copy? = some c → (σ.phase j).copy? = some d →
    σ.host.placeOf c = σ.host.placeOf d → i = j
  /-- There was nothing where a copy is. -/
  fresh : ∀ i c, (σ.phase i).copy? = some c → h₀.nodeAt c = none
  /-- A place is spared, or it is that of a copy, or that of the entry of a call that has
  succeeded. -/
  node : ∀ q, Host.Spares a.root h₀ σ.host q
    ∨ (∃ i c, (σ.phase i).copy? = some c ∧ q = σ.host.placeOf c)
    ∨ (∃ i g f, q = σ.host.placeOf (a.entry (bitcode i)) ∧ σ.phase i = .succeeded (.file g)
      ∧ σ.host.files.get? q = some (.file f) ∧ f.content = g.content)
  /-- The entry of a call that has succeeded is complete. -/
  complete : ∀ i source, σ.phase i = .succeeded source → ∃ j g f,
    σ.host.placeOf (a.entry (bitcode j)) = σ.host.placeOf (a.entry (bitcode i))
    ∧ σ.phase j = .succeeded (.file g)
    ∧ σ.host.nodeAt (a.entry (bitcode i)) = some (.file f) ∧ f.content = g.content

theorem orderly_initial : Orderly a bitcode h₀ (.initial h₀) := by
  refine ⟨Host.Keeps.refl h₀, fun _ => holds_of_no_copy rfl, ?_, ?_, fun _ => .inl (.inl rfl), ?_⟩
  · intro i j c d hc
    cases hc
  · intro i c hc
    cases hc
  · intro i source hs
    cases hs

/-- Where the copy of a call is, there is a file. -/
theorem Orderly.copy_file (ho : Orderly a bitcode h₀ σ) {i : ι} {c : Path}
    (hc : (σ.phase i).copy? = some c) :
    ∃ f, σ.host.files.get? (σ.host.placeOf c) = some (.file f) := by
  obtain ⟨-, f, hfound, -⟩ := ho.holds i c hc
  exact ⟨f, (Host.nodeAt_of_lookup hfound (by simp)).2⟩

/-- Where nothing is, there was nothing. -/
theorem Orderly.none_before (ho : Orderly a bitcode h₀ σ) {q : Place}
    (hq : σ.host.files.get? q = none) : h₀.files.get? q = none := by
  rcases ho.node q with (hsame | ⟨hnone, -, -⟩) | ⟨i, c, hc, hplace⟩ | ⟨i, g, f, -, -, hfile, -⟩
  · exact hsame.symm.trans hq
  · exact hnone
  · obtain ⟨f, hfile⟩ := ho.copy_file hc
    rw [hplace, hfile] at hq
    cases hq
  · rw [hfile] at hq
    cases hq

/-- A call that has succeeded takes no more steps. -/
theorem succeeded_stays {i : ι} {source : Node} (hs : σ.phase i = .succeeded source)
    (hstep : Step a bitcode σ σ') : σ'.phase i = .succeeded source := by
  cases hstep with
  | call j n own others =>
      by_cases hi : i = j
      · subst hi
        rw [hs] at own
        exact (congrArg Prod.fst own).symm
      · exact (others i hi).trans hs
  | host => exact hs

/-! ## Steps -/

section Step

variable {i : ι} {phase : ι → Phase} {host : Host}

/-- A step of one call leaves the copies of the others alone. -/
theorem Orderly.other_copy (ho : Orderly a bitcode h₀ σ)
    (he : Effect a (bitcode i) (σ.phase i) σ.host (phase i) host) {j : ι} (hj : j ≠ i) {c : Path}
    (hc : (σ.phase j).copy? = some c) :
    host.files.get? (σ.host.placeOf c) = σ.host.files.get? (σ.host.placeOf c) := by
  obtain ⟨f, hfile⟩ := ho.copy_file hc
  rcases he.node (σ.host.placeOf c) with (hsame | ⟨hnone, -, -⟩) | ⟨d, hd, hplace⟩
      | ⟨hplace, -⟩
  · exact hsame
  · rw [hfile] at hnone
    cases hnone
  · -- a copy of the call that takes the step is another one
    have hbefore : (σ.phase i).copy? = some d := by
      rcases hd with hd | hd
      · exact hd
      · rcases he.made d hd with hd | ⟨-, hnone⟩
        · exact hd
        · rw [Host.nodeAt, ← hplace, hfile] at hnone
          cases hnone
    exact absurd (ho.apart j i c d hc hbefore hplace) hj
  · exact absurd hplace ((ho.holds j c hc).1.ne_entry (bitcode i))

/-- The others still have their copies. -/
theorem Orderly.call_holds (ho : Orderly a bitcode h₀ σ)
    (he : Effect a (bitcode i) (σ.phase i) σ.host (phase i) host)
    (others : ∀ j, j ≠ i → phase j = σ.phase j) (j : ι) : (phase j).Holds a host := by
  by_cases hj : j = i
  · subst hj
    exact he.holds
  · intro c hc
    rw [others j hj] at hc ⊢
    obtain ⟨hstaged, f, hfound, hfills⟩ := ho.holds j c hc
    have hthere : host.nodeAt c = some (.file f) := by
      rw [Host.nodeAt, he.keeps.placeOf, ho.other_copy he hj hc]
      exact (Host.nodeAt_of_lookup hfound (by simp)).2
    refine ⟨(isStaged_iff he.keeps).2 hstaged, f, ?_, hfills⟩
    rw [he.keeps.lookup hfound (by simp) ((Host.lookup_eq_ok hfound).2.2 f rfl), hthere,
      he.keeps.placeOf]

/-- A copy that a step makes is where no other copy is. -/
theorem Orderly.ne_other_copy (ho : Orderly a bitcode h₀ σ)
    (he : Effect a (bitcode i) (σ.phase i) σ.host (phase i) host) {j : ι} (hj : j ≠ i)
    {c d : Path} (hc : (phase i).copy? = some c) (hd : (σ.phase j).copy? = some d) :
    σ.host.placeOf c ≠ σ.host.placeOf d := by
  intro hplace
  rcases he.made c hc with hc | ⟨-, hnone⟩
  · exact hj (ho.apart j i d c hd hc hplace.symm)
  · obtain ⟨f, hfile⟩ := ho.copy_file hd
    rw [Host.nodeAt, hplace, hfile] at hnone
    cases hnone

theorem Orderly.call_apart (ho : Orderly a bitcode h₀ σ)
    (he : Effect a (bitcode i) (σ.phase i) σ.host (phase i) host)
    (others : ∀ j, j ≠ i → phase j = σ.phase j) (j k : ι) (c d : Path)
    (hc : (phase j).copy? = some c) (hd : (phase k).copy? = some d)
    (hplace : host.placeOf c = host.placeOf d) : j = k := by
  rw [he.keeps.placeOf, he.keeps.placeOf] at hplace
  by_cases hj : j = i
  · by_cases hk : k = i
    · rw [hj, hk]
    · rw [others k hk] at hd
      rw [hj] at hc
      exact absurd hplace (ho.ne_other_copy he hk hc hd)
  · rw [others j hj] at hc
    by_cases hk : k = i
    · rw [hk] at hd
      exact absurd hplace.symm (ho.ne_other_copy he hj hd hc)
    · rw [others k hk] at hd
      exact ho.apart j k c d hc hd hplace

theorem Orderly.call_fresh (ho : Orderly a bitcode h₀ σ)
    (he : Effect a (bitcode i) (σ.phase i) σ.host (phase i) host)
    (others : ∀ j, j ≠ i → phase j = σ.phase j) (j : ι) (c : Path)
    (hc : (phase j).copy? = some c) : h₀.nodeAt c = none := by
  by_cases hj : j = i
  · subst hj
    rcases he.made c hc with hc | ⟨-, hnone⟩
    · exact ho.fresh j c hc
    · rw [Host.nodeAt, ho.keeps.placeOf] at hnone
      exact ho.none_before hnone
  · rw [others j hj] at hc
    exact ho.fresh j c hc

theorem Orderly.call_node (ho : Orderly a bitcode h₀ σ)
    (he : Effect a (bitcode i) (σ.phase i) σ.host (phase i) host)
    (hstays : ∀ j source, σ.phase j = .succeeded source → phase j = .succeeded source)
    (others : ∀ j, j ≠ i → phase j = σ.phase j) (q : Place) :
    Host.Spares a.root h₀ host q
    ∨ (∃ j c, (phase j).copy? = some c ∧ q = host.placeOf c)
    ∨ (∃ j g f, q = host.placeOf (a.entry (bitcode j)) ∧ phase j = .succeeded (.file g)
      ∧ host.files.get? q = some (.file f) ∧ f.content = g.content) := by
  simp only [he.keeps.placeOf]
  -- a copy that the step has given up leaves nothing where nothing was
  have hgone : ∀ c, (σ.phase i).copy? = some c → q = σ.host.placeOf c →
      (phase i).copy? = some c ∨ Host.Spares a.root h₀ host q := by
    rintro c hc rfl
    rcases he.gone c hc with hc | ⟨-, hnone⟩
    · exact .inl hc
    · have hbefore := ho.fresh i c hc
      rw [Host.nodeAt, he.keeps.placeOf] at hnone
      rw [Host.nodeAt, ← ho.keeps.placeOf] at hbefore
      exact .inr (.inl (hnone.trans hbefore.symm))
  rcases he.node q with (hsame | ⟨hnone, hdirectory, hway⟩) | ⟨c, hc, hplace⟩
      | ⟨hplace, g, f, hphase, hfile, hcontent⟩
  · rcases ho.node q with (hbefore | hmade) | ⟨j, c, hc, hplace⟩
        | ⟨j, g, f, hplace, hphase, hfile, hcontent⟩
    · exact .inl (.inl (hsame.trans hbefore))
    · exact .inl (.inr ⟨hmade.before, hsame.trans hmade.after, hmade.onWay⟩)
    · by_cases hj : j = i
      · subst hj
        rcases hgone c hc hplace with hc | hspares
        · exact .inr (.inl ⟨j, c, hc, hplace⟩)
        · exact .inl hspares
      · rw [← others j hj] at hc
        exact .inr (.inl ⟨j, c, hc, hplace⟩)
    · exact .inr (.inr ⟨j, g, f, hplace, hstays j _ hphase, hsame.trans hfile, hcontent⟩)
  · refine .inl (.inr ⟨ho.none_before hnone, hdirectory, ?_⟩)
    rw [← ho.keeps.cwd]
    exact hway
  · rcases hc with hc | hc
    · rcases hgone c hc hplace with hc | hspares
      · exact .inr (.inl ⟨i, c, hc, hplace⟩)
      · exact .inl hspares
    · exact .inr (.inl ⟨i, c, hc, hplace⟩)
  · exact .inr (.inr ⟨i, g, f, hplace, hphase, hfile, hcontent⟩)

theorem Orderly.call_complete (ho : Orderly a bitcode h₀ σ)
    (he : Effect a (bitcode i) (σ.phase i) σ.host (phase i) host)
    (hstays : ∀ j source, σ.phase j = .succeeded source → phase j = .succeeded source)
    (others : ∀ j, j ≠ i → phase j = σ.phase j) (k : ι) (source : Node)
    (hs : phase k = .succeeded source) : ∃ j g f,
    host.placeOf (a.entry (bitcode j)) = host.placeOf (a.entry (bitcode k))
    ∧ phase j = .succeeded (.file g)
    ∧ host.nodeAt (a.entry (bitcode k)) = some (.file f) ∧ f.content = g.content := by
  have hbefore : σ.phase k = .succeeded source
      ∨ ∃ g f, source = .file g ∧ host.nodeAt (a.entry (bitcode k)) = some (.file f)
        ∧ f.content = g.content := by
    by_cases hk : k = i
    · subst hk
      exact he.succeeded source hs
    · rw [others k hk] at hs
      exact .inl hs
  rcases hbefore with hbefore | ⟨g, f, rfl, hrest⟩
  · obtain ⟨j, g, f, hplace, hphase, hfile, hcontent⟩ := ho.complete k source hbefore
    simp only [Host.nodeAt, he.keeps.placeOf] at hfile ⊢
    -- the entry has not changed, or the step has put a complete copy there
    rcases he.node (σ.host.placeOf (a.entry (bitcode k))) with (hsame | ⟨hnone, -, -⟩)
        | ⟨c, hc, hcopy⟩ | ⟨hentry, g', f', hsucceeded, hfile', hcontent'⟩
    · exact ⟨j, g, f, hplace, hstays j _ hphase, hsame.trans hfile, hcontent⟩
    · rw [hfile] at hnone
      cases hnone
    · exact absurd hcopy.symm ((he.isStaged (ho.holds i) hc).ne_entry (bitcode k))
    · exact ⟨i, g', f', hentry.symm, hsucceeded, hfile', hcontent'⟩
  · exact ⟨k, g, f, rfl, hs, hrest⟩

theorem Orderly.effect (hsound : h₀.Sound) (ho : Orderly a bitcode h₀ σ) {n : Nat} {φ : Phase}
    (own : (σ.phase i).step a (bitcode i) n σ.host = (φ, host)) :
    Effect a (bitcode i) (σ.phase i) σ.host φ host := by
  have heffect : Effect a (bitcode i) (σ.phase i) σ.host
      ((σ.phase i).step a (bitcode i) n σ.host).1 ((σ.phase i).step a (bitcode i) n σ.host).2 :=
    effect_step (ho.keeps.sound hsound) (ho.holds i) n
  rw [own] at heffect
  exact heffect

/-- **A step of one call** keeps what holds of all. -/
theorem Orderly.call (hsound : h₀.Sound) (ho : Orderly a bitcode h₀ σ) {n : Nat}
    (own : (σ.phase i).step a (bitcode i) n σ.host = (phase i, host))
    (others : ∀ j, j ≠ i → phase j = σ.phase j) : Orderly a bitcode h₀ ⟨host, phase⟩ := by
  have he := ho.effect hsound own
  have hstays : ∀ j source, σ.phase j = .succeeded source → phase j = .succeeded source :=
    fun _ _ hs => succeeded_stays hs (.call i n own others)
  exact ⟨ho.keeps.trans he.keeps, ho.call_holds he others, ho.call_apart he others,
    ho.call_fresh he others, ho.call_node he hstays others, ho.call_complete he hstays others⟩

end Step

/-- **Every step** keeps what holds. -/
theorem Orderly.step (hsound : h₀.Sound) (ho : Orderly a bitcode h₀ σ)
    (hstep : Step a bitcode σ σ') : Orderly a bitcode h₀ σ' := by
  cases hstep with
  | call i n own others => exact ho.call hsound own others
  | host refuses serial =>
      refine ⟨⟨ho.keeps.cwd, fun hsound => ?_, ho.keeps.directory⟩, ho.holds, ho.apart, ho.fresh,
        fun q => ?_, ho.complete⟩
      · have hbefore := ho.keeps.sound hsound
        exact ⟨hbefore.grounded, hbefore.current, hbefore.names⟩
      · rcases ho.node q with (hsame | ⟨hnone, hdirectory, hway⟩) | hmoved
        · exact .inl (.inl hsame)
        · exact .inl (.inr ⟨hnone, hdirectory, hway⟩)
        · exact .inr hmoved

/-- **Every run** keeps what holds. -/
theorem orderly_run (hsound : h₀.Sound)
    (hrun : Relation.ReflTransGen (Step a bitcode) (.initial h₀) σ) :
    Orderly a bitcode h₀ σ := by
  induction hrun with
  | refl => exact orderly_initial
  | tail _ hstep ih => exact ih.step hsound hstep

/-- **What stands in an entry**: what stood there, or what a call for it has opened. -/
theorem Orderly.entry (ho : Orderly a bitcode h₀ σ) (p : Path) :
    a.Leaves h₀ σ.host p
    ∨ ∃ i g, entryName (bitcode i) = entryName p ∧ σ.phase i = .succeeded (.file g)
      ∧ σ.host.contentOf? (a.entry p) = some g.content := by
  have hplace := ho.keeps.placeOf (a.entry p)
  rcases ho.node (σ.host.placeOf (a.entry p)) with hspares | ⟨i, c, hc, hentry⟩
      | ⟨i, g, f, hentry, hphase, hfile, hcontent⟩
  · rw [hplace] at hspares
    exact .inl (.of_spares hspares hplace)
  · exact absurd hentry.symm ((ho.holds i c hc).1.ne_entry p)
  · refine .inr ⟨i, g, (entryName_of_placeOf hentry).symm, hphase, ?_⟩
    rw [← hcontent]
    exact Host.contentOf?_of_file hfile

/-- **The entry of a call that has succeeded** holds what a call for it has opened. -/
theorem Orderly.entry_of_succeeded (ho : Orderly a bitcode h₀ σ) {i : ι} {source : Node}
    (hs : σ.phase i = .succeeded source) :
    ∃ j g, entryName (bitcode j) = entryName (bitcode i) ∧ σ.phase j = .succeeded (.file g)
      ∧ σ.host.contentOf? (a.entry (bitcode i)) = some g.content := by
  obtain ⟨j, g, f, hplace, hphase, hfile, hcontent⟩ := ho.complete i source hs
  refine ⟨j, g, entryName_of_placeOf hplace, hphase, ?_⟩
  rw [← hcontent]
  exact Host.contentOf?_of_file hfile

/-- What a call has opened, it had opened before a step, or it opens in that step what its path
names. -/
theorem Orderly.opened (hsound : h₀.Sound) (ho : Orderly a bitcode h₀ σ)
    (hstep : Step a bitcode σ σ') {i : ι} {g : File}
    (hs : (σ'.phase i).source? = some (.file g)) :
    (σ.phase i).source? = some (.file g)
    ∨ (σ.phase i = .rooted ∧ σ.host.contentOf? (bitcode i) = some g.content) := by
  cases hstep with
  | call j n own others =>
      by_cases hi : i = j
      · subst hi
        rcases (ho.effect hsound own).source _ hs with hbefore | ⟨hphase, hnode | hdirectory⟩
        · exact .inl hbefore
        · exact .inr ⟨hphase, Host.contentOf?_of_file hnode⟩
        · cases hdirectory
      · exact .inl ((congrArg Phase.source? (others i hi)).symm.trans hs)
  | host => exact .inl hs

/-- **What a call has opened** is what its bitcode file held in the beginning, if the file still
holds that when the call comes to open it. -/
theorem content_opened {R : Calls ι → Calls ι → Prop} (hsound : h₀.Sound)
    (hsteps : R ≤ Step a bitcode) {i : ι}
    (hkept : ∀ σ, Relation.ReflTransGen R (.initial h₀) σ → σ.phase i = .rooted →
      σ.host.contentOf? (bitcode i) = h₀.contentOf? (bitcode i))
    (hrun : Relation.ReflTransGen R (.initial h₀) σ) {g : File}
    (hs : (σ.phase i).source? = some (.file g)) :
    h₀.contentOf? (bitcode i) = some g.content := by
  induction hrun generalizing g with
  | refl => cases hs
  | tail hrun hstep ih =>
      have ho := orderly_run hsound (Relation.ReflTransGen.mono hsteps _ _ hrun)
      rcases ho.opened hsound (hsteps _ _ hstep) hs with hbefore | ⟨hphase, hcontent⟩
      · exact ih hbefore
      · rw [← hkept _ hrun hphase]
        exact hcontent

/-! ## Schedules -/

/-- The calls after one of them has taken its turn. -/
def advance [DecidableEq ι] (a : Archive) (bitcode : ι → Path) (σ : Calls ι) (turn : ι × Nat) :
    Calls ι :=
  let next := (σ.phase turn.1).step a (bitcode turn.1) turn.2 σ.host
  ⟨next.2, Function.update σ.phase turn.1 next.1⟩

/-- Taking turns is a run. -/
theorem run_schedule [DecidableEq ι] (turns : List (ι × Nat)) (σ : Calls ι) :
    Relation.ReflTransGen (Step a bitcode) σ (turns.foldl (advance a bitcode) σ) := by
  induction turns generalizing σ with
  | nil => exact .refl
  | cons turn turns ih =>
      have hstep : Step a bitcode σ (advance a bitcode σ turn) := by
        refine .call turn.1 turn.2 ?_ fun j hj => Function.update_of_ne hj _ _
        rw [Function.update_self]
      exact .head hstep (ih _)

/-! ## Bitcode files that stay as they are -/

/-- A step in which every bitcode file keeps the content that it had in the beginning. -/
def Steady (a : Archive) (bitcode : ι → Path) (h₀ : Host) (σ σ' : Calls ι) : Prop :=
  Step a bitcode σ σ' ∧ ∀ i, σ'.host.contentOf? (bitcode i) = h₀.contentOf? (bitcode i)

theorem steady_le : Steady a bitcode h₀ ≤ Step a bitcode := fun _ _ hstep => hstep.1

theorem orderly_of_steady (hsound : h₀.Sound)
    (hrun : Relation.ReflTransGen (Steady a bitcode h₀) (.initial h₀) σ) :
    Orderly a bitcode h₀ σ :=
  orderly_run hsound (Relation.ReflTransGen.mono steady_le _ _ hrun)

theorem content_steady (hsound : h₀.Sound)
    (hrun : Relation.ReflTransGen (Steady a bitcode h₀) (.initial h₀) σ) {i : ι} {g : File}
    (hs : (σ.phase i).source? = some (.file g)) :
    h₀.contentOf? (bitcode i) = some g.content := by
  refine content_opened hsound steady_le ?_ hrun hs
  intro σ hrun _
  rcases Relation.ReflTransGen.cases_tail hrun with rfl | ⟨_, -, hlast⟩
  · rfl
  · exact hlast.2 i

/-- Nothing changes outside the archive. -/
theorem Orderly.contentOf?_outside (ho : Orderly a bitcode h₀ σ) {p : Path}
    (houtside : ¬ h₀.placeOf a.root <+: h₀.placeOf p) :
    σ.host.contentOf? p = h₀.contentOf? p := by
  have hplace := ho.keeps.placeOf p
  rw [← hplace, ← ho.keeps.placeOf] at houtside
  rcases ho.node (σ.host.placeOf p) with hspares | ⟨i, c, hc, hcopy⟩ | ⟨i, g, f, hentry, -⟩
  · rw [hplace] at hspares
    exact hspares.contentOf? hplace
  · obtain ⟨⟨n, hn⟩, -⟩ := ho.holds i c hc
    rw [hcopy, hn] at houtside
    exact absurd (List.prefix_append _ _) houtside
  · rw [hentry, placeOf_entry] at houtside
    exact absurd (List.prefix_append _ _) houtside

/-- **Every run is steady** where the bitcode files are outside the archive. -/
theorem steady_of_outside (hsound : h₀.Sound)
    (houtside : ∀ i, ¬ h₀.placeOf a.root <+: h₀.placeOf (bitcode i))
    (hrun : Relation.ReflTransGen (Step a bitcode) (.initial h₀) σ) :
    Relation.ReflTransGen (Steady a bitcode h₀) (.initial h₀) σ := by
  induction hrun with
  | refl => exact .refl
  | tail hrun hstep ih =>
      have ho := (orderly_run hsound hrun).step hsound hstep
      exact ih.tail ⟨hstep, fun i => ho.contentOf?_outside (houtside i)⟩

/-- The entry of a call that has succeeded is whole. -/
theorem whole_of_succeeded (hsound : h₀.Sound) {i : ι} {source : Node}
    (hdigest : ∀ j, Sha256.digest (bitcode j).text = Sha256.digest (bitcode i).text →
      bitcode j = bitcode i)
    (hrun : Relation.ReflTransGen (Steady a bitcode h₀) (.initial h₀) σ)
    (hs : σ.phase i = .succeeded source) : a.IsWhole h₀ σ.host (bitcode i) := by
  have ho := orderly_of_steady hsound hrun
  obtain ⟨j, g, hname, hphase, hcontent⟩ := ho.entry_of_succeeded hs
  refine ⟨g.content, ?_, hcontent⟩
  rw [← hdigest j (entryName_inj hname)]
  exact content_steady hsound hrun (by rw [hphase]; rfl)

/-- **No reader meets part of an entry.** Any number of calls store in one archive, in any order of
their steps, and each of them may have stopped for good; their bitcode files stay as they are. Then,
for every path whose digest is not that of another path: its entry is what it was before the calls,
or holds all of the path's content; once a call for it has succeeded, its entry stays whole; and no
step of a call for another path changes its entry. -/
theorem entry_whole {p : Path} (hsound : h₀.Sound)
    (hdigest : ∀ i, Sha256.digest (bitcode i).text = Sha256.digest p.text → bitcode i = p)
    (hrun : Relation.ReflTransGen (Steady a bitcode h₀) (.initial h₀) σ) :
    (a.Leaves h₀ σ.host p ∨ a.IsWhole h₀ σ.host p)
    ∧ (∀ i source, bitcode i = p → σ.phase i = .succeeded source →
      ∀ σ', Relation.ReflTransGen (Steady a bitcode h₀) σ σ' → a.IsWhole h₀ σ'.host p)
    ∧ ∀ i n φ host, bitcode i ≠ p → (σ.phase i).step a (bitcode i) n σ.host = (φ, host) →
      a.Leaves σ.host host p := by
  have ho := orderly_of_steady hsound hrun
  refine ⟨?_, ?_, ?_⟩
  · rcases ho.entry p with hleft | ⟨i, g, hname, hphase, hcontent⟩
    · exact .inl hleft
    · refine .inr ⟨g.content, ?_, hcontent⟩
      rw [← hdigest i (entryName_inj hname)]
      exact content_steady hsound hrun (by rw [hphase]; rfl)
  · rintro i source rfl hs σ' hlater
    have hs' : σ'.phase i = .succeeded source := by
      induction hlater with
      | refl => exact hs
      | tail _ hstep ih => exact succeeded_stays ih hstep.1
    exact whole_of_succeeded hsound hdigest (hrun.trans hlater) hs'
  · intro i n φ host hother own
    rcases (ho.effect hsound own).entry (ho.holds i) p with hleft | ⟨hname, -⟩
    · exact hleft
    · exact absurd (hdigest i (entryName_inj hname.symm)) hother

/-- Two bitcode files, and no archive yet. -/
def twoFiles : Host where
  files := ⟨[([Octets.ofString "w"], .directory),
    ([Octets.ofString "w", Octets.ofString "a.bc"], .file { content := [1, 2] }),
    ([Octets.ofString "w", Octets.ofString "b.bc"], .file { content := [3] })]⟩
  cwd := { place := [] }

theorem sound_twoFiles : twoFiles.Sound :=
  ⟨Files.grounded_of_entries (by decide +kernel), rfl, fun _ hname => by cases hname⟩

/-- Two calls for one file and one for another. -/
def threeCalls : Fin 3 → Path
  | 0 => .ofString "/w/a.bc"
  | 1 => .ofString "/w/a.bc"
  | 2 => .ofString "/w/b.bc"

/-- The first call stops for good with half of a copy, and the others go on. -/
def turns : List (Fin 3 × Nat) :=
  [(0, 0), (0, 0), (1, 0), (2, 0), (0, 0), (1, 0), (0, 1), (1, 0), (1, 2), (2, 0), (1, 0), (2, 0),
    (1, 0), (1, 0)]

/-- An entry is whole beside the half copy of a call that has stopped. -/
theorem entry_whole_beside_half_copy :
    let a : Archive := ⟨.ofString "/s"⟩
    let σ := turns.foldl (advance a threeCalls) (.initial twoFiles)
    Relation.ReflTransGen (Steady a threeCalls twoFiles) (.initial twoFiles) σ
      ∧ σ.phase 0 = .copying (.file { content := [1, 2] }) (.ofString "/s/.staged-000000") [1]
      ∧ a.IsWhole twoFiles σ.host (.ofString "/w/a.bc") := by
  intro a σ
  have hrun : Relation.ReflTransGen (Steady a threeCalls twoFiles) (.initial twoFiles) σ :=
    steady_of_outside sound_twoFiles (by decide +kernel) (run_schedule turns _)
  have hdigest : ∀ i, Sha256.digest (threeCalls i).text
      = Sha256.digest (Path.ofString "/w/a.bc").text → threeCalls i = .ofString "/w/a.bc" := by
    intro i hi
    fin_cases i
    · rfl
    · rfl
    · exact absurd hi (by decide +kernel)
  have hsucceeded : σ.phase 1 = .succeeded (.file { content := [1, 2] }) := by decide +kernel
  exact ⟨hrun, by decide +kernel,
    (entry_whole sound_twoFiles hdigest hrun).2.1 1 _ rfl hsucceeded σ .refl⟩

end Calls

end Archive

end TwinBuild
