import TwinBuild.Compilation
import TwinBuild.Proofs.Interleaving
import TwinBuild.Proofs.Journal
import TwinBuild.Proofs.Reports

/-!
# The builds of a compilation

The builds are the native compile and the jobs of the replay, which run side by side. In the journal
they are the commands of the replay in order with the native command somewhere among them, and their
verdicts alone say whether the compilation goes on.

Main statements: `map_command_jobs`, which commands a replay issues, and `exists_builds_build`, the
entries and the answer of the builds.
-/

namespace TwinBuild

/-! ## The commands of a replay -/

/-- Mapping over a list that was itself mapped with its indices. -/
theorem map_mapIdx {α β γ : Type} (f : Nat → α → β) (g : β → γ) (xs : List α) :
    (xs.mapIdx f).map g = xs.mapIdx fun index x => g (f index x) := by
  rw [List.mapIdx_eq_zipIdx_map, List.map_map, List.mapIdx_eq_zipIdx_map]
  rfl

namespace Invocation

/-- The objects of the sources, in order. -/
def objects (i : Invocation) (naming : Naming) : List Path :=
  i.sources.mapIdx fun index source => (i.artifactOf naming index source).object

/-- Where there is to be a link, no object was asked for by name. -/
theorem artifactOf_of_links (i : Invocation) (hlinks : i.compilesOnly = false) (naming : Naming)
    (index : Nat) (source : Path) :
    i.artifactOf naming index source = Artifact.ofSource naming index source := by
  unfold artifactOf namedObject?
  rw [hlinks, Bool.and_false, if_neg Bool.false_ne_true]

/-- The bitcode of a source: what is made for it, or a source that is bitcode itself. -/
def bitcodeOf (i : Invocation) (naming : Naming) (index : Nat) (source : Path) : Path :=
  if source.isBitcode then source else (i.artifactOf naming index source).bitcode

/-- The sources' bitcode and objects in pairs, in order. -/
def pairings (i : Invocation) (naming : Naming) : List Pairing :=
  i.sources.mapIdx fun index source =>
    ⟨i.bitcodeOf naming index source, (i.artifactOf naming index source).object⟩

end Invocation

namespace Replay

/-- **The commands of a replay.** Each source in order has an object build, unless the invocation
stops before the link, and then a bitcode build, unless the source is bitcode. -/
def Recipe.commands (r : Recipe) (i : Invocation) (naming : Naming) : List Command :=
  (i.sources.mapIdx fun index source =>
    (if i.compilesOnly then []
      else [r.objectCommand i source (i.artifactOf naming index source).object])
    ++ if source.isBitcode then []
      else [r.bitcodeCommand i source (i.artifactOf naming index source).bitcode]).flatten

variable (r : Recipe) (i : Invocation) (naming : Naming)

theorem map_command_jobs_plan (h : makesObjects naming = !i.compilesOnly) (index : Nat)
    (source : Path) :
    (r.plan i naming index source).jobs.map Job.command
      = (if i.compilesOnly then []
          else [r.objectCommand i source (i.artifactOf naming index source).object])
        ++ if source.isBitcode then []
          else [r.bitcodeCommand i source (i.artifactOf naming index source).bitcode] := by
  unfold Plan.jobs Recipe.plan
  rw [h]
  cases i.compilesOnly <;> cases source.isBitcode <;> rfl

/-- The jobs of a replay issue its commands. -/
theorem map_command_jobs (h : makesObjects naming = !i.compilesOnly) :
    ((r.plans i naming).flatMap Plan.jobs).map Job.command = r.commands i naming := by
  unfold Recipe.plans Recipe.commands
  rw [List.map_flatMap, List.flatMap_def, map_mapIdx]
  refine congrArg List.flatten (List.mapIdx_eq_mapIdx_iff.2 fun index hindex => ?_)
  exact map_command_jobs_plan r i naming h index i.sources[index]

theorem map_pairing_plans : (r.plans i naming).map Plan.pairing = i.pairings naming := by
  unfold Recipe.plans Invocation.pairings
  rw [map_mapIdx]
  refine List.mapIdx_eq_mapIdx_iff.2 fun index hindex => ?_
  unfold Plan.pairing Plan.bitcodePath Invocation.bitcodeOf Recipe.plan
  cases i.sources[index].isBitcode <;> rfl

theorem filterMap_newObject?_plans (h : makesObjects naming = true) :
    (r.plans i naming).filterMap Plan.newObject? = i.objects naming := by
  have hobject : ∀ p ∈ r.plans i naming, p.newObject? = some p.artifact.object := by
    intro p hp
    obtain ⟨index, hindex, rfl⟩ := List.mem_mapIdx.1 hp
    unfold Plan.newObject? Recipe.plan
    rw [h]
    rfl
  rw [List.filterMap_congr hobject, List.filterMap_eq_map']
  unfold Recipe.plans Invocation.objects
  rw [map_mapIdx]
  rfl

end Replay

/-! ## The builds in the journal -/

/-- The entries of the builds in a journal: of the native compile, and of the jobs of the replay
that began before it and after it. -/
structure Builds where
  early : List Issue
  native : Issue
  late : List Issue

namespace Builds

/-- The entries, in the order of the journal. -/
def entries (b : Builds) : List Issue := b.early ++ b.native :: b.late

/-- The entries of the replay, in order. -/
def replay (b : Builds) : List Issue := b.early ++ b.late

/-- Whether every build succeeded. -/
def succeeded (b : Builds) : Bool := b.entries.all fun entry => entry.verdict.isOk

theorem succeeded_eq (b : Builds) :
    b.succeeded = (b.native.verdict.isOk && (b.replay.map Issue.verdict).all Except.isOk) := by
  unfold succeeded entries replay
  rw [List.all_append, List.all_cons, List.map_append, List.all_append, List.all_map,
    List.all_map]
  exact Bool.and_left_comm _ _ _

theorem not_succeeded (b : Builds) :
    (!b.succeeded)
      = (!b.native.verdict.isOk || (b.replay.map Issue.verdict).any fun v => !v.isOk) := by
  rw [succeeded_eq, Bool.not_and, List.not_all_eq_any_not]

theorem verdicts_of_succeeded {b : Builds} (h : b.succeeded = true) :
    ∀ v ∈ b.replay.map Issue.verdict, v.isOk = true := by
  rw [succeeded_eq, Bool.and_eq_true, List.all_eq_true] at h
  exact h.2

end Builds

namespace Compilation

open Session Replay

/-- The commands of the replay of an invocation. -/
def replayCommands (c : Compilation) (compiler : Path) (i : Invocation) (naming : Naming) :
    List Command :=
  (Recipe.mk compiler c.settings.bitcodeFlags).commands i naming

/-- **The builds of one compilation**: which commands the entries hold, and where the native one
stands among them. -/
structure IsBuilds (c : Compilation) (compiler : Path) (i : Invocation) (naming : Naming)
    (b : Builds) : Prop where
  native : b.native.command = (nativeJob compiler i).command
  early : b.early.map Issue.command = (c.replayCommands compiler i naming).take c.turn
  late : b.late.map Issue.command = (c.replayCommands compiler i naming).drop c.turn

theorem IsBuilds.replay {c : Compilation} {compiler : Path} {i : Invocation} {naming : Naming}
    {b : Builds} (h : c.IsBuilds compiler i naming b) :
    b.replay.map Issue.command = c.replayCommands compiler i naming := by
  rw [Builds.replay, List.map_append, h.early, h.late, List.take_append_drop]

/-- The native command and those of the replay are interleaved. -/
theorem IsBuilds.interleaving {c : Compilation} {compiler : Path} {i : Invocation}
    {naming : Naming} {b : Builds} (h : c.IsBuilds compiler i naming b) :
    Interleaving [(nativeJob compiler i).command] (c.replayCommands compiler i naming)
      (b.entries.map Issue.command) := by
  refine interleaving_singleton_iff.2 ⟨c.turn, ?_⟩
  rw [Builds.entries, List.map_append, List.map_cons, h.early, h.native, h.late]

/-- **Every interleaving is one of some turn**, so what holds for each turn holds for every order in
which the host lets the two run. -/
theorem exists_turn_of_interleaving (c : Compilation) (compiler : Path) (i : Invocation)
    (naming : Naming) {order : List Command}
    (h : Interleaving [(nativeJob compiler i).command] (c.replayCommands compiler i naming)
      order) :
    ∃ turn, ∀ b, IsBuilds { c with turn } compiler i naming b →
      b.entries.map Issue.command = order := by
  obtain ⟨turn, rfl⟩ := interleaving_singleton_iff.1 h
  refine ⟨turn, fun b hb => ?_⟩
  rw [Builds.entries, List.map_append, List.map_cons, hb.early, hb.native, hb.late]
  rfl

/-- Jobs beside the native one: its entry stands where its turn comes, and the answer is the verdict
on it and the verdicts on the others. -/
theorem exists_adds_runSideBySide (c : Compilation) (native : Job) (jobs : List Job)
    (s : Session) :
    ∃ b : Builds, Adds (c.runSideBySide native jobs) s b.entries
      ∧ b.native.command = native.command
      ∧ b.early.map Issue.command = (jobs.map Job.command).take c.turn
      ∧ b.late.map Issue.command = (jobs.map Job.command).drop c.turn
      ∧ ((c.runSideBySide native jobs).run s).1
        = (b.native.verdict, b.replay.map Issue.verdict) := by
  obtain ⟨early, hearly, hearlyCommands, hearlyVerdicts⟩ :=
    Job.exists_adds_mapM c.runner (jobs.take c.turn) s
  obtain ⟨entry, hentry, hcommand, hverdict⟩ :
      ∃ entry, Adds (native.run c.runner)
          (((jobs.take c.turn).mapM (Job.run c.runner)).run s).2 [entry]
        ∧ entry.command = native.command
        ∧ entry.verdict = ((native.run c.runner).run
            (((jobs.take c.turn).mapM (Job.run c.runner)).run s).2).1 :=
    ⟨_, Job.adds_run c.runner native _, rfl, rfl⟩
  obtain ⟨late, hlate, hlateCommands, hlateVerdicts⟩ :=
    Job.exists_adds_mapM c.runner (jobs.drop c.turn)
      ((native.run c.runner).run (((jobs.take c.turn).mapM (Job.run c.runner)).run s).2).2
  refine ⟨⟨early, entry, late⟩, ?_, hcommand, ?_, ?_, ?_⟩
  · exact hearly.bind (hentry.bind (hlate.then_quiet fun _ => quiet_pure _))
  · rw [hearlyCommands, List.map_take]
  · rw [hlateCommands, List.map_drop]
  · rw [Builds.replay, List.map_append, hearlyVerdicts, hlateVerdicts, hverdict]
    rfl

/-- Whether the outcome of the native compile is a failure. -/
theorem outcomeOf_eq_failure (v : Verdict) :
    decide (outcomeOf v = .failure) = !v.isOk := by
  cases v <;> rfl

/-- **The entries and the answer of the builds.** The answer is read off their verdicts; it lets the
compilation go on exactly if every build succeeded, and then it has every pair and every new
object. -/
theorem exists_builds_build (c : Compilation) (compiler : Path) (i : Invocation)
    (naming : Naming) (h : makesObjects naming = !i.compilesOnly) (s : Session) :
    ∃ b : Builds, Adds (c.build compiler i naming) s b.entries
      ∧ c.IsBuilds compiler i naming b
      ∧ (decide (((c.build compiler i naming).run s).1.1 = .failure)
          || hasFailures ((c.build compiler i naming).run s).1.2) = !b.succeeded
      ∧ (b.succeeded = true →
          pairings ((c.build compiler i naming).run s).1.2 = i.pairings naming
          ∧ (i.compilesOnly = false →
            newObjects ((c.build compiler i naming).run s).1.2 = i.objects naming)) := by
  obtain ⟨b, hadds, hnative, hearly, hlate, hanswer⟩ := c.exists_adds_runSideBySide
    (nativeJob compiler i)
    (((Recipe.mk compiler c.settings.bitcodeFlags).plans i naming).flatMap Plan.jobs) s
  rw [map_command_jobs _ i naming h] at hearly hlate
  have hbuilds : c.IsBuilds compiler i naming b := ⟨hnative, hearly, hlate⟩
  have hresult : ((c.build compiler i naming).run s).1
      = (outcomeOf b.native.verdict,
        reports ((Recipe.mk compiler c.settings.bitcodeFlags).plans i naming)
          (b.replay.map Issue.verdict)) := by
    unfold build
    rw [run_bind, hanswer]
    rfl
  -- one entry for each job, so the verdicts are neither too few nor too many for the plans
  have hlength : (b.replay.map Issue.verdict).length
      = (((Recipe.mk compiler c.settings.bitcodeFlags).plans i naming).flatMap
          Plan.jobs).length := by
    have hcommands := congrArg List.length hbuilds.replay
    rw [replayCommands, ← map_command_jobs _ i naming h] at hcommands
    rw [List.length_map, ← List.length_map (f := Issue.command), hcommands, List.length_map]
  refine ⟨b, hadds.then_quiet fun _ => quiet_pure _, hbuilds, ?_, ?_⟩
  · rw [hresult, outcomeOf_eq_failure, hasFailures_reports hlength, b.not_succeeded]
  · intro hsucceeded
    obtain ⟨hpairings, hobjects⟩ :=
      pairings_and_newObjects_reports hlength (Builds.verdicts_of_succeeded hsucceeded)
    rw [hresult]
    refine ⟨hpairings.trans (map_pairing_plans _ i naming), fun hcompiles => ?_⟩
    rw [hobjects, filterMap_newObject?_plans _ i naming (by rw [h, hcompiles]; rfl)]

end Compilation

end TwinBuild
