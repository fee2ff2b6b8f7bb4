import TwinBuild.Replay

/-!
# What a computation adds to the journal

The journal of a session holds the commands issued so far, each with its verdict. A computation
adds entries at its end and takes none away; most parts of a compilation add none at all. The laws
here put the entries of a computation together from those of its parts.

Main statement: `Job.exists_adds_mapM`, a sequence of jobs adds one entry for each job, in order.
-/

namespace TwinBuild

namespace Session

variable {α β : Type} {x : SessionM α} {f : α → SessionM β} {s : Session} {a b : List Issue}

/-- **`Adds x s new`**: run from `s`, the computation `x` adds the entries `new` to the journal. -/
def Adds (x : SessionM α) (s : Session) (new : List Issue) : Prop :=
  (x.run s).2.issued = s.issued ++ new

/-- A computation that issues no command, wherever it starts. -/
def Quiet (x : SessionM α) : Prop := ∀ s, Adds x s []

theorem Adds.bind (hx : Adds x s a) (hf : Adds (f (x.run s).1) (x.run s).2 b) :
    Adds (x >>= f) s (a ++ b) := by
  unfold Adds at hx hf ⊢
  rw [run_bind, hf, hx, List.append_assoc]

/-- What follows a quiet computation makes all the entries. -/
theorem Adds.after_quiet (hx : Quiet x) (hf : Adds (f (x.run s).1) (x.run s).2 b) :
    Adds (x >>= f) s b := (hx s).bind hf

/-- A quiet end adds nothing to the entries so far. -/
theorem Adds.then_quiet (hx : Adds x s a) (hf : ∀ r, Quiet (f r)) : Adds (x >>= f) s a := by
  have h := hx.bind (hf _ _)
  rwa [List.append_nil] at h

theorem quiet_pure (r : α) : Quiet (pure r : SessionM α) := fun _ => (List.append_nil _).symm

theorem Quiet.bind (hx : Quiet x) (hf : ∀ r, Quiet (f r)) : Quiet (x >>= f) :=
  fun s => (hx s).then_quiet hf

theorem run_get (s : Session) : (get : SessionM Session).run s = (s, s) := rfl

theorem quiet_get : Quiet (get : SessionM Session) := fun _ => (List.append_nil _).symm

theorem quiet_say (level : Log.Level) (part : Log.Part) (text : String) :
    Quiet (say level part text) := fun _ => (List.append_nil _).symm

theorem quiet_onHost {ε : Type} (act : ExceptT ε (StateM Host) α) : Quiet (onHost act) :=
  fun _ => (List.append_nil _).symm

/-- A command adds its own entry. -/
theorem adds_run (runner : Runner) (command : Command) (s : Session) :
    Adds (run runner command) s [⟨command, s.host, ((run runner command).run s).1⟩] := by
  unfold Adds
  rw [issued_run, verdict_run]

theorem run_mapM_cons (g : α → SessionM β) (r : α) (rs : List α) (s : Session) :
    ((r :: rs).mapM g).run s
      = (((g r).run s).1 :: ((rs.mapM g).run ((g r).run s).2).1,
        ((rs.mapM g).run ((g r).run s).2).2) := by
  rw [List.mapM_cons]
  rfl

theorem adds_mapM_cons {g : α → SessionM β} {r : α} {rs : List α} (hr : Adds (g r) s a)
    (hrs : Adds (rs.mapM g) ((g r).run s).2 b) : Adds ((r :: rs).mapM g) s (a ++ b) := by
  unfold Adds at hr hrs ⊢
  rw [run_mapM_cons, hrs, hr, List.append_assoc]

end Session

namespace Job

open Session

/-- A job answers the verdict on its command. -/
theorem verdict_run (runner : Runner) (job : Job) (s : Session) :
    ((job.run runner).run s).1 = ((Session.run runner job.command).run s).1 := by
  unfold run
  rw [run_bind]
  cases ((Session.run runner job.command).run s).1 <;> rfl

/-- A job adds one entry: its command with the verdict that it answers. -/
theorem adds_run (runner : Runner) (job : Job) (s : Session) :
    Adds (job.run runner) s [⟨job.command, s.host, ((job.run runner).run s).1⟩] := by
  rw [verdict_run]
  refine (Session.adds_run runner job.command s).then_quiet fun verdict => ?_
  cases verdict with
  | ok => exact quiet_pure _
  | error e => exact (quiet_say _ _ _).bind fun _ => quiet_pure _

/-- **Jobs in a row.** They add one entry each, in order, with the verdicts that they answer. -/
theorem exists_adds_mapM (runner : Runner) (jobs : List Job) (s : Session) :
    ∃ new, Adds (jobs.mapM (Job.run runner)) s new
      ∧ new.map Issue.command = jobs.map Job.command
      ∧ new.map Issue.verdict = ((jobs.mapM (Job.run runner)).run s).1 := by
  induction jobs generalizing s with
  | nil => exact ⟨[], quiet_pure _ s, rfl, rfl⟩
  | cons job jobs ih =>
      obtain ⟨new, hnew, hcommands, hverdicts⟩ := ih ((job.run runner).run s).2
      refine ⟨_, adds_mapM_cons (adds_run runner job s) hnew, ?_, ?_⟩
      · rw [List.map_append, hcommands]
        rfl
      · rw [List.map_append, hverdicts, run_mapM_cons]
        rfl

/-- Jobs in a row answer one verdict each. -/
theorem length_verdicts (runner : Runner) (jobs : List Job) (s : Session) :
    ((jobs.mapM (Job.run runner)).run s).1.length = jobs.length := by
  rcases exists_adds_mapM runner jobs s with ⟨new, -, hcommands, hverdicts⟩
  rw [← hverdicts, List.length_map, ← List.length_map (f := Issue.command), hcommands,
    List.length_map]

end Job

end TwinBuild
