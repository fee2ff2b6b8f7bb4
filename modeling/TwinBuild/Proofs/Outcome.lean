import TwinBuild.Proofs.CommandTrace
import TwinBuild.Rehearsal

/-!
# What decides the outcome

Two runs of one invocation may differ in everything but the verdicts on their builds: the runner,
the order of the builds, the archive, the host, and what becomes of payloads, embed commands, the
link and the scratch directory. They still end the same way. The verdicts are read off the journal
that a run leaves: the builds come first there, and the order of the run says which of them is the
native compile.

Main statement: `outcome_of_verdicts`.
-/

namespace TwinBuild

/-! ## How many commands a replay has -/

/-- Rows of one length, and of one more where a test holds, have as many entries in all as the
length for each row and the tests that hold. -/
theorem length_flatten_mapIdx {α β : Type} {f : Nat → α → List β} {m : Nat} {p : α → Bool}
    (h : ∀ index x, (f index x).length = m + if p x then 1 else 0) (xs : List α) :
    (xs.mapIdx f).flatten.length = m * xs.length + xs.countP p := by
  induction xs generalizing f with
  | nil => rfl
  | cons x xs ih =>
      -- the rows after the first are those of the function moved by one
      rw [List.mapIdx_cons, List.flatten_cons, List.length_append, h,
        ih fun index x => h (index + 1) x, List.length_cons, List.countP_cons, Nat.mul_succ]
      omega

namespace Replay

/-- How many commands replay the sources of an invocation. -/
def commandCount (i : Invocation) : Nat :=
  (if i.compilesOnly then 0 else 1) * i.sources.length
    + i.sources.countP fun source => !source.isBitcode

theorem length_commands (r : Recipe) (i : Invocation) (naming : Naming) :
    (r.commands i naming).length = commandCount i := by
  unfold Recipe.commands commandCount
  apply length_flatten_mapIdx
  intro index source
  cases i.compilesOnly <;> cases source.isBitcode <;> rfl

end Replay

namespace Builds

variable (b : Builds) (later : List Issue)

theorem native_of_entries : (b.entries ++ later)[b.early.length]? = some b.native := by
  simp [entries]

theorem length_entries : b.entries.length = b.replay.length + 1 := by
  simp only [entries, replay, List.length_append, List.length_cons]
  omega

theorem replay_of_entries {n : Nat} (h : b.replay.length = n) :
    ((b.entries ++ later).take (n + 1)).eraseIdx b.early.length = b.replay := by
  rw [List.take_left' (b.length_entries.trans (congrArg (· + 1) h)), entries,
    List.eraseIdx_append_of_length_le (Nat.le_refl _), Nat.sub_self]
  rfl

end Builds

namespace Compilation

open Session Replay

variable (c : Compilation) (compiler : Path) (i : Invocation) (s : Session)

/-! ## The verdicts on the builds -/

/-- The entries that a compilation adds to the journal of its session. -/
def journal : List Issue := ((c.compile compiler i).run s).2.issued.drop s.issued.length

/-- How many commands the replay of an invocation has. A bypassed one is not replayed. -/
def replayLength : Nat :=
  match i.bypass? c.settings.configuring with
  | some _ => 0
  | none => commandCount i

/-- The place of the native compile among the builds. -/
def nativeIndex : Nat := min c.turn (c.replayLength i)

/-- The entry of the native compile, if the run came so far. -/
def nativeIssue? : Option Issue := (c.journal compiler i s)[c.nativeIndex i]?

/-- The entries of the replay, in order. -/
def replayEntries : List Issue :=
  ((c.journal compiler i s).take (c.replayLength i + 1)).eraseIdx (c.nativeIndex i)

variable {c compiler i s}

theorem journal_of_adds {new : List Issue} (h : Adds (c.compile compiler i) s new) :
    c.journal compiler i s = new := by
  unfold journal
  rw [h, List.drop_left]

/-- **The builds of a run**: a run that made its builds ends as their verdicts say. -/
structure HasBuilds (c : Compilation) (compiler : Path) (i : Invocation) (s : Session)
    (b : Builds) : Prop where
  native : b.native.command = (nativeJob compiler i).command
  native_entry : c.nativeIssue? compiler i s = some b.native
  replay_entries : c.replayEntries compiler i s = b.replay
  outcome : ((c.compile compiler i).run s).1 = .ok (if b.succeeded then .success else .failure)

theorem HasBuilds.eq_success_iff {b : Builds} (h : HasBuilds c compiler i s b) :
    ((c.compile compiler i).run s).1 = .ok .success ↔ b.succeeded = true := by
  rw [h.outcome]
  cases b.succeeded <;> simp

theorem hasBuilds_of_adds {b : Builds} (later : List Issue)
    (hnative : b.native.command = (nativeJob compiler i).command)
    (hearly : b.early.length = c.nativeIndex i) (hreplay : b.replay.length = c.replayLength i)
    (hadds : Adds (c.compile compiler i) s (b.entries ++ later))
    (houtcome : ((c.compile compiler i).run s).1
      = .ok (if b.succeeded then .success else .failure)) :
    HasBuilds c compiler i s b := by
  refine ⟨hnative, ?_, ?_, houtcome⟩
  · rw [nativeIssue?, journal_of_adds hadds, ← hearly, Builds.native_of_entries]
  · rw [replayEntries, journal_of_adds hadds, ← hearly, Builds.replay_of_entries b later hreplay]

variable (compiler s)

/-- A bypassed run has the native compile for its only build. -/
theorem hasBuilds_of_bypass {why : Bypass} (h : i.bypass? c.settings.configuring = some why) :
    ∃ b, HasBuilds c compiler i s b ∧ b.replay = [] := by
  rcases c.exists_adds_passThrough compiler i why s with ⟨entry, hadds, hcommand, houtcome⟩
  have hlength : c.replayLength i = 0 := by rw [replayLength, h]
  refine ⟨⟨[], entry, []⟩, ?_, rfl⟩
  refine hasBuilds_of_adds [] hcommand ?_ hlength.symm ?_ ?_
  · rw [nativeIndex, hlength, Nat.min_zero]
    rfl
  · rw [compile_of_bypass c compiler i h]
    exact hadds
  · rw [compile_of_bypass c compiler i h]
    show Except.ok ((c.passThrough compiler i why).run s).1 = _
    rw [houtcome, outcomeOf_alone]

variable {compiler s} in
/-- A run that is not bypassed has the builds by which it builds twice, and its journal begins with
them. -/
theorem hasBuilds_of_buildTwice {scratch : Option Path} {b : Builds} {later : List Issue}
    (h : i.bypass? c.settings.configuring = none)
    (hscratch : ((makeScratch i).run s).1 = .ok scratch)
    (hbuilds : c.IsBuilds compiler i (namingOf scratch) b)
    (hadds : Adds (c.buildTwice compiler i scratch) ((makeScratch i).run s).2 (b.entries ++ later))
    (houtcome : ((c.buildTwice compiler i scratch).run ((makeScratch i).run s).2).1
      = if b.succeeded then .success else .failure) :
    HasBuilds c compiler i s b ∧ c.journal compiler i s = b.entries ++ later
      ∧ b.entries.length = c.replayLength i + 1 := by
  have hlength : c.replayLength i = (c.replayCommands compiler i (namingOf scratch)).length := by
    rw [replayLength, h, replayCommands, length_commands]
  have hreplay : b.replay.length = c.replayLength i := by
    rw [← List.length_map (f := Issue.command), hbuilds.replay, hlength]
  have hall := adds_compile_of_scratch h hscratch hadds
  refine ⟨hasBuilds_of_adds later hbuilds.native ?_ hreplay hall ?_, journal_of_adds hall, ?_⟩
  · rw [← List.length_map (f := Issue.command), hbuilds.early, List.length_take, nativeIndex,
      hlength]
  · rw [run_compile_of_scratch c compiler i h hscratch, houtcome]
  · rw [b.length_entries, hreplay]

/-- A run that is not bypassed has the builds of the compilation, as soon as its scratch directory
can be made. -/
theorem hasBuilds_of_scratch {scratch : Option Path}
    (h : i.bypass? c.settings.configuring = none)
    (hscratch : ((makeScratch i).run s).1 = .ok scratch) :
    ∃ b, HasBuilds c compiler i s b
      ∧ b.replay.map Issue.command = c.replayCommands compiler i (namingOf scratch) := by
  rcases c.exists_builds_buildTwice compiler i (makesObjects_of_makeScratch i hscratch)
    ((makeScratch i).run s).2 with ⟨b, later, -, hadds, hbuilds, -, houtcome⟩
  exact ⟨b, (hasBuilds_of_buildTwice h hscratch hbuilds hadds houtcome).1, hbuilds.replay⟩

theorem journal_of_error {e : CompilationError}
    (h : i.bypass? c.settings.configuring = none)
    (hscratch : ((makeScratch i).run s).1 = .error e) : c.journal compiler i s = [] := by
  rw [journal, run_compile_of_error c compiler i h hscratch, issued_makeScratch, List.drop_length]

/-- A run whose scratch directory cannot be made issues nothing and has no outcome. -/
theorem no_builds_of_error {e : CompilationError}
    (h : i.bypass? c.settings.configuring = none)
    (hscratch : ((makeScratch i).run s).1 = .error e) :
    c.nativeIssue? compiler i s = none ∧ ((c.compile compiler i).run s).1 = .error e := by
  constructor
  · rw [nativeIssue?, journal_of_error compiler s h hscratch]
    rfl
  · rw [run_compile_of_error c compiler i h hscratch]

/-- A run that is not bypassed compiles natively exactly if its scratch directory can be made. -/
theorem isSome_nativeIssue? (h : i.bypass? c.settings.configuring = none) :
    (c.nativeIssue? compiler i s).isSome = ((makeScratch i).run s).1.isOk := by
  cases hscratch : ((makeScratch i).run s).1 with
  | ok scratch =>
      obtain ⟨b, hb, -⟩ := hasBuilds_of_scratch compiler s h hscratch
      rw [hb.native_entry]
      rfl
  | error e =>
      rw [(no_builds_of_error compiler s h hscratch).1]
      rfl

variable {compiler s}

/-- Every run either made its builds or has no outcome, for want of a scratch directory. -/
theorem hasBuilds_or_error (c : Compilation) (compiler : Path) (i : Invocation) (s : Session) :
    (∃ b, HasBuilds c compiler i s b ∧ (i.bypass? c.settings.configuring ≠ none → b.replay = []))
    ∨ (i.bypass? c.settings.configuring = none ∧ c.nativeIssue? compiler i s = none
      ∧ ∃ e, ((makeScratch i).run s).1 = .error e
        ∧ ((c.compile compiler i).run s).1 = .error e) := by
  cases hbypass : i.bypass? c.settings.configuring with
  | some why =>
      rcases hasBuilds_of_bypass compiler s hbypass with ⟨b, hb, hreplay⟩
      exact Or.inl ⟨b, hb, fun _ => hreplay⟩
  | none =>
      cases hscratch : ((makeScratch i).run s).1 with
      | ok scratch =>
          rcases hasBuilds_of_scratch compiler s hbypass hscratch with ⟨b, hb, -⟩
          exact Or.inl ⟨b, hb, fun h => absurd rfl h⟩
      | error e =>
          rcases no_builds_of_error compiler s hbypass hscratch with ⟨hentry, hrun⟩
          exact Or.inr ⟨rfl, hentry, e, rfl, hrun⟩

/-- The entry of the native compile is one of the native command. -/
theorem command_nativeIssue? {entry : Issue} (h : c.nativeIssue? compiler i s = some entry) :
    entry.command = (nativeJob compiler i).command := by
  rcases hasBuilds_or_error c compiler i s with ⟨b, hb, -⟩ | ⟨-, hentry, -⟩
  · rw [hb.native_entry] at h
    cases h
    exact hb.native
  · rw [hentry] at h
    cases h

/-- The entries of the replay are those of its commands. -/
theorem map_command_replayEntries {scratch : Option Path}
    (h : i.bypass? c.settings.configuring = none)
    (hscratch : ((makeScratch i).run s).1 = .ok scratch) :
    (c.replayEntries compiler i s).map Issue.command
      = c.replayCommands compiler i (namingOf scratch) := by
  rcases hasBuilds_of_scratch compiler s h hscratch with ⟨b, hb, hcommands⟩
  rw [hb.replay_entries, hcommands]

/-! ## The outcome -/

/-- The outcome of a run is read off the verdicts on its builds. -/
theorem outcome_eq (c : Compilation) (compiler : Path) (i : Invocation) (s : Session) :
    ((c.compile compiler i).run s).1.toOption
      = ((c.nativeIssue? compiler i s).map fun entry => entry.verdict.isOk).map fun ok =>
          if ok && ((c.replayEntries compiler i s).map fun entry => entry.verdict.isOk).all id then
            .success
          else .failure := by
  rcases hasBuilds_or_error c compiler i s with ⟨b, hb, -⟩ | ⟨-, hentry, e, -, hrun⟩
  · rw [hb.outcome, hb.native_entry, hb.replay_entries, b.succeeded_eq, List.all_map, List.all_map]
    rfl
  · rw [hrun, hentry]
    rfl

theorem eq_success_iff (c : Compilation) (compiler : Path) (i : Invocation) (s : Session) :
    ((c.compile compiler i).run s).1 = .ok .success
      ↔ (∃ entry, c.nativeIssue? compiler i s = some entry ∧ entry.verdict.isOk)
        ∧ (i.bypass? c.settings.configuring = none →
          ∀ entry ∈ c.replayEntries compiler i s, entry.verdict.isOk) := by
  rcases hasBuilds_or_error c compiler i s with ⟨b, hb, hreplay⟩ | ⟨-, hentry, e, -, hrun⟩
  · rw [hb.eq_success_iff, hb.native_entry, hb.replay_entries, b.succeeded_eq, Bool.and_eq_true,
      List.all_eq_true, List.forall_mem_map]
    constructor
    · exact fun ⟨hnative, hall⟩ => ⟨⟨b.native, rfl, hnative⟩, fun _ => hall⟩
    · rintro ⟨⟨entry, hentry, hok⟩, hall⟩
      cases hentry
      refine ⟨hok, ?_⟩
      -- a bypassed run has no replay that could fail
      by_cases hbypass : i.bypass? c.settings.configuring = none
      · exact hall hbypass
      · rw [hreplay hbypass]
        exact fun entry hentry => absurd hentry List.not_mem_nil
  · rw [hrun, hentry]
    constructor
    · intro h
      cases h
    · rintro ⟨⟨entry, h, -⟩, -⟩
      cases h

/-- **Only the builds decide.** Two runs of an invocation with the same verdicts on the native
compile and on the commands of the replay end with the same outcome, whatever else differs between
them. They end in success exactly if the native compile succeeded and, unless the invocation is
bypassed, so did every command of the replay. An outcome there is as soon as the scratch directory
can be made. -/
theorem outcome_of_verdicts {c₁ c₂ : Compilation} {compiler : Path} {i : Invocation}
    {s₁ s₂ : Session}
    (hnative : (c₁.nativeIssue? compiler i s₁).map (fun entry => entry.verdict.isOk)
      = (c₂.nativeIssue? compiler i s₂).map fun entry => entry.verdict.isOk)
    (hreplay : (c₁.replayEntries compiler i s₁).map (fun entry => entry.verdict.isOk)
      = (c₂.replayEntries compiler i s₂).map fun entry => entry.verdict.isOk) :
    ((c₁.compile compiler i).run s₁).1.toOption = ((c₂.compile compiler i).run s₂).1.toOption
    ∧ (((c₁.compile compiler i).run s₁).1 = .ok .success
      ↔ (∃ entry, c₁.nativeIssue? compiler i s₁ = some entry ∧ entry.verdict.isOk)
        ∧ (i.bypass? c₁.settings.configuring = none →
          ∀ entry ∈ c₁.replayEntries compiler i s₁, entry.verdict.isOk))
    ∧ ((i.bypass? c₁.settings.configuring = none → ((makeScratch i).run s₁).1.isOk) →
      ∃ o, ((c₁.compile compiler i).run s₁).1 = .ok o
        ∧ ((c₂.compile compiler i).run s₂).1 = .ok o) := by
  have hsame : ((c₁.compile compiler i).run s₁).1.toOption
      = ((c₂.compile compiler i).run s₂).1.toOption := by
    rw [outcome_eq, outcome_eq, hnative, hreplay]
  refine ⟨hsame, eq_success_iff c₁ compiler i s₁, fun hscratch => ?_⟩
  rcases hasBuilds_or_error c₁ compiler i s₁ with ⟨b, hb, -⟩ | ⟨hbypass, -, e, he, -⟩
  · refine ⟨_, hb.outcome, ?_⟩
    rw [hb.outcome] at hsame
    -- the other run has the same outcome, so it cannot have ended without one
    cases hother : ((c₂.compile compiler i).run s₂).1 with
    | error e =>
        rw [hother] at hsame
        cases hsame
    | ok o =>
        rw [hother] at hsame
        exact congrArg Except.ok (Option.some.inj hsame.symm)
  · have hok := hscratch hbypass
    rw [he] at hok
    cases hok

/-- A second run in which the embedder and the link fail, no payload can be made, the scratch
directory cannot be removed and there is an archive to store in, still ends as the first one
does. -/
theorem outcome_of_hindered_run :
    let i : Invocation := .ofArguments [Octets.ofString "a.c"]
    let smooth : Compilation := { runner := ({} : Rehearsal).runner }
    let hindered : Compilation :=
      { settings := { archive := some (.ofString "/store") }
        runner := Rehearsal.runner
          { rules :=
            [{ program := some (Octets.ofString "objcopy"), ending := .status 1 },
              { excluded := [Octets.ofString "a.c"], ending := .signalled }] }
        turn := 2 }
    let broken : Session := bareSession fun
      | .removeDirectory _ => some .noEntry
      | .createFile _ => some .noEntry
      | _ => none
    ∃ o, ((smooth.compile (.ofString "/cc") i).run (bareSession fun _ => none)).1 = .ok o
      ∧ ((hindered.compile (.ofString "/cc") i).run broken).1 = .ok o :=
  (outcome_of_verdicts (by decide +kernel) (by decide +kernel)).2.2 fun _ => by decide +kernel

end Compilation

end TwinBuild
