import Mathlib.Logic.Relation
import Mathlib.Data.List.Basic
import TwinBuild.Rehearsal
import TwinBuild.SideBySide
import TwinBuild.Proofs.Builds

/-!
# Two tasks side by side lose nothing

What holds in every state that the steps of `TwinBuild.SideBySide` lead to: which tasks are started,
how often the channel is held, and that a task has handed in one report if it came so far. From it,
no task waits for room in the channel, no state before the end is stuck, and a closed channel has
given one report of each task. If the verdict on a command depends on the command alone, the
verdicts of the tasks are decided from the beginning, and with them the answer.

Main statements: `merges_both_reports`, for every order of steps, and `exists_run_build`, a build is
one of the runs.
-/

namespace TwinBuild

/-- A runner whose verdict on a command depends on nothing but the command. -/
def Runner.Gives (runner : Runner) (verdict : Command → Verdict) : Prop :=
  ∀ earlier command h, (runner.run earlier command h).1 = verdict command

namespace SideBySide

open Compilation Replay Session

/-- Whether a task has handed in its report. -/
def Progress.hasSent : Progress → Bool
  | delivered => true
  | ended => true
  | _ => false

/-- How often a task holds the channel. -/
def Progress.holds : Progress → Nat
  | unborn => 0
  | ended => 0
  | _ => 1

/-- How often what started the tasks holds the channel. -/
def Stage.holds : Stage → Nat
  | opened => 1
  | doubled => 2
  | half => 1
  | _ => 0

/-- Which tasks are started and which have ended, by the stage. -/
def Stage.Fits (task : Task → Progress) : Stage → Prop
  | opened => ∀ t, task t = .unborn
  | doubled => ∀ t, task t = .unborn
  | half => task .native ≠ .unborn ∧ task .replay = .unborn
  | waiting => ∀ t, task t ≠ .unborn
  | collecting _ => ∀ t, task t = .ended
  | closed _ => ∀ t, task t = .ended

theorem forall_task {P : Task → Prop} : (∀ t, P t) ↔ P .native ∧ P .replay := by
  constructor
  · intro h
    exact ⟨h .native, h .replay⟩
  · rintro ⟨hnative, hreplay⟩ (_ | _)
    · exact hnative
    · exact hreplay

namespace State

variable (σ : State)

@[simp] theorem task_advance (t u : Task) (p : Progress) :
    (σ.advance t p).task u = if u = t then p else σ.task u := rfl

@[simp] theorem session_advance (t : Task) (p : Progress) :
    (σ.advance t p).session = σ.session := rfl

@[simp] theorem channel_advance (t : Task) (p : Progress) :
    (σ.advance t p).channel = σ.channel := rfl

@[simp] theorem stage_advance (t : Task) (p : Progress) :
    (σ.advance t p).stage = σ.stage := rfl

/-- How often the channel is held for sending. -/
def holds : Nat := σ.stage.holds + (σ.task .native).holds + (σ.task .replay).holds

/-- The reports that were handed in, the oldest first: those taken out, and those in the channel. -/
def handedIn : List TaskReport := σ.stage.taken ++ σ.channel.queue

end State

/-- A started task that has not ended may come to any other progress. -/
theorem Stage.Fits.advance {σ : State} (h : σ.stage.Fits σ.task) {t : Task} {p : Progress}
    (hborn : σ.task t ≠ .unborn) (hlive : σ.task t ≠ .ended) (hp : p ≠ .unborn) :
    σ.stage.Fits (σ.advance t p).task := by
  revert h
  unfold Fits
  cases σ.stage with
  | opened => exact fun h => absurd (h t) hborn
  | doubled => exact fun h => absurd (h t) hborn
  | half =>
      rintro ⟨hnative, hreplay⟩
      cases t with
      | native => exact ⟨hp, hreplay⟩
      | replay => exact absurd hreplay hborn
  | waiting =>
      intro h u
      rw [State.task_advance]
      split
      · exact hp
      · exact h u
  | collecting taken => exact fun h => absurd (h t) hlive
  | closed taken => exact fun h => absurd (h t) hlive

/-- **What holds in every state of a run.** -/
structure Sound (σ : State) : Prop where
  fits : σ.stage.Fits σ.task
  senders : σ.channel.senders = σ.holds
  /-- A task has handed in one report if it came so far, and none before. -/
  reports : ∀ t, σ.handedIn.countP (fun r => decide (r.task = t)) = (σ.task t).hasSent.toNat
  closed : ∀ taken, σ.stage = .closed taken → σ.channel.queue = []

variable {w : Work} {σ σ' : State}

theorem sound_initial (s : Session) : Sound (.initial s) := by
  refine ⟨fun _ => rfl, rfl, fun _ => rfl, ?_⟩
  intro taken h
  cases h

/-- Holds change as those of the task that moves on. -/
theorem holds_advance (σ : State) (t : Task) (p : Progress) :
    (σ.advance t p).holds + (σ.task t).holds = σ.holds + p.holds := by
  unfold State.holds
  cases t <;> simp <;> omega

/-- A step of a task that hands nothing in keeps what holds, if the holds of the channel are counted
along. -/
theorem Sound.advance (h : Sound σ) {t : Task} {p : Progress} {session : Session} {senders : Nat}
    (hborn : σ.task t ≠ .unborn) (hlive : σ.task t ≠ .ended) (hp : p ≠ .unborn)
    (hsent : p.hasSent = (σ.task t).hasSent)
    (hsenders : senders + (σ.task t).holds = σ.channel.senders + p.holds) :
    Sound { σ.advance t p with session, channel := { σ.channel with senders } } := by
  refine ⟨h.fits.advance hborn hlive hp, ?_, ?_, h.closed⟩
  · have hholds := holds_advance σ t p
    have hsum := h.senders
    show senders = (σ.advance t p).holds
    omega
  · intro u
    refine (h.reports u).trans ?_
    show _ = ((σ.advance t p).task u).hasSent.toNat
    by_cases hu : u = t
    · subst hu
      rw [State.task_advance, if_pos rfl, hsent]
    · rw [State.task_advance, if_neg hu]

/-- **One step** keeps what holds. -/
theorem Sound.step (h : Sound σ) (hstep : Step w σ σ') : Sound σ' := by
  cases hstep with
  | double hstage =>
      have hfits := h.fits
      have hsenders := h.senders
      have hreports := h.reports
      simp only [State.holds, State.handedIn, hstage] at hfits hsenders hreports
      refine ⟨hfits, ?_, hreports, fun _ h => by cases h⟩
      simp [State.holds, Stage.holds, hsenders]
      omega
  | startNative hstage =>
      have hfits := h.fits
      have hsenders := h.senders
      have hreports := h.reports
      simp only [State.holds, State.handedIn, hstage, Stage.Fits, forall_task]
        at hfits hsenders hreports
      refine ⟨?_, ?_, ?_, fun _ h => by cases h⟩
      · simp [Stage.Fits, hfits]
      · simp [State.holds, Stage.holds, Progress.holds, hsenders, hfits]
      · rw [forall_task]
        simpa [State.handedIn, Stage.taken, Progress.hasSent, hfits] using hreports
  | startReplay hstage =>
      have hfits := h.fits
      have hsenders := h.senders
      have hreports := h.reports
      simp only [State.holds, State.handedIn, hstage, Stage.Fits] at hfits hsenders hreports
      refine ⟨?_, ?_, ?_, fun _ h => by cases h⟩
      · simp [Stage.Fits, forall_task, hfits]
      · simp [State.holds, Stage.holds, Progress.holds, hsenders, hfits]
        omega
      · rw [forall_task]
        refine ⟨hreports .native, ?_⟩
        have hreplay := hreports .replay
        rw [hfits.2] at hreplay
        exact hreplay
  | begin t ht =>
      refine h.advance (t := t) ?_ ?_ ?_ ?_ ?_ <;> simp [ht, Progress.hasSent, Progress.holds]
  | @finish t verdicts job rest ht =>
      cases ((Session.issue w.runner job.command).run σ.session).1 <;>
      refine h.advance (t := t) ?_ ?_ ?_ ?_ ?_ <;>
        simp [ht, Progress.hasSent, Progress.holds, Progress.afterCommand]
  | complain t ht =>
      refine h.advance (t := t) ?_ ?_ ?_ ?_ ?_ <;> simp [ht, Progress.hasSent, Progress.holds]
  | @send t verdicts ht room =>
      have hlive : σ.task t ≠ .ended := by simp [ht]
      refine ⟨h.fits.advance (by simp [ht]) hlive (by simp), ?_, ?_, ?_⟩
      · have hholds := holds_advance σ t .delivered
        have hsum := h.senders
        simp only [ht, Progress.holds] at hholds
        show σ.channel.senders = (σ.advance t .delivered).holds
        omega
      · intro u
        have hreport : (w.report t verdicts).task = t := by cases t <;> rfl
        show (σ.stage.taken ++ (σ.channel.queue ++ [w.report t verdicts])).countP _
          = ((σ.advance t .delivered).task u).hasSent.toNat
        have hu := h.reports u
        unfold State.handedIn at hu
        rw [← List.append_assoc, List.countP_append, hu, State.task_advance]
        by_cases hut : u = t
        · subst hut
          simp [ht, hreport, Progress.hasSent]
        · have htu : t ≠ u := fun e => hut e.symm
          simp [hut, htu, hreport]
      · intro taken hclosed
        -- a closed channel has no task that could still send
        have hfits := h.fits
        have hstage : σ.stage = .closed taken := hclosed
        rw [hstage] at hfits
        exact absurd (hfits t) hlive
  | release t ht =>
      refine h.advance (t := t) (by simp [ht]) (by simp [ht]) (by simp)
        (by simp [ht, Progress.hasSent]) ?_
      -- the task itself still counts among the senders
      have hpos : 1 ≤ σ.channel.senders := by
        rw [h.senders, State.holds]
        cases t <;> simp only [ht, Progress.holds] <;> omega
      simp only [ht, Progress.holds]
      omega
  | join hstage ended =>
      have hsenders := h.senders
      have hreports := h.reports
      simp only [State.holds, State.handedIn, hstage] at hsenders hreports
      exact ⟨ended, hsenders, hreports, fun _ h => by cases h⟩
  | receive hstage queue =>
      have hfits := h.fits
      have hsenders := h.senders
      have hreports := h.reports
      simp only [State.holds, State.handedIn, hstage, queue] at hfits hsenders hreports
      refine ⟨hfits, hsenders, ?_, fun _ h => by cases h⟩
      simpa [State.handedIn, Stage.taken, List.countP_append, Nat.add_assoc] using hreports
  | close hstage queue senders =>
      have hfits := h.fits
      have hsenders := h.senders
      have hreports := h.reports
      simp only [State.holds, State.handedIn, hstage] at hfits hsenders hreports
      exact ⟨hfits, hsenders, hreports, fun _ _ => queue⟩

/-! ## Every run -/

theorem Sound.run (h : Sound σ) (hrun : Relation.ReflTransGen (Step w) σ σ') : Sound σ' := by
  induction hrun with
  | refl => exact h
  | tail _ hstep ih => exact ih.step hstep

/-- As many reports are handed in as tasks have come so far. -/
theorem Sound.length_handedIn (h : Sound σ) :
    σ.handedIn.length
      = (σ.task .native).hasSent.toNat + (σ.task .replay).hasSent.toNat := by
  have hother : (fun r : TaskReport => decide (r.task = .replay))
      = fun r => decide (¬ decide (r.task = .native) = true) := by
    funext r
    cases r <;> rfl
  rw [← h.reports .native, ← h.reports .replay, hother]
  exact List.length_eq_countP_add_countP _

/-- **No send is blocked**: a task whose jobs are done finds room for its report. -/
theorem Sound.room (h : Sound σ) {t : Task} {verdicts : List Verdict}
    (ht : σ.task t = .idle verdicts []) : σ.channel.queue.length < Channel.capacity := by
  have hlength := h.length_handedIn
  rw [State.handedIn, List.length_append] at hlength
  -- this task has handed in nothing yet, so at most the report of the other one is there
  have hnone : (σ.task t).hasSent.toNat = 0 := by rw [ht]; rfl
  have hbound : σ.channel.queue.length ≤ 1 := by
    have hnative := Bool.toNat_le (σ.task .native).hasSent
    have hreplay := Bool.toNat_le (σ.task .replay).hasSent
    cases t <;> omega
  exact Nat.lt_of_le_of_lt hbound (by decide)

/-- A started task that has not ended can go on. -/
theorem Sound.exists_step_of_task (h : Sound σ) {t : Task} (hborn : σ.task t ≠ .unborn)
    (hlive : σ.task t ≠ .ended) : ∃ σ', Step w σ σ' := by
  cases ht : σ.task t with
  | unborn => exact absurd ht hborn
  | idle verdicts rest =>
      cases rest with
      | nil => exact ⟨_, .send t ht (h.room ht)⟩
      | cons job rest => exact ⟨_, .begin t ht⟩
  | busy verdicts job rest => exact ⟨_, .finish t ht⟩
  | failing verdicts job e rest => exact ⟨_, .complain t ht⟩
  | delivered => exact ⟨_, .release t ht⟩
  | ended => exact absurd ht hlive

/-- **Nothing gets stuck**: until the channel is closed, there is a next step. -/
theorem Sound.exists_step (h : Sound σ) (hopen : ∀ taken, σ.stage ≠ .closed taken) :
    ∃ σ', Step w σ σ' := by
  have hfits := h.fits
  cases hstage : σ.stage with
  | opened => exact ⟨_, .double hstage⟩
  | doubled => exact ⟨_, .startNative hstage⟩
  | half => exact ⟨_, .startReplay hstage⟩
  | waiting =>
      rw [hstage] at hfits
      by_cases hended : ∀ t, σ.task t = .ended
      · exact ⟨_, .join hstage hended⟩
      · obtain ⟨t, hlive⟩ := not_forall.1 hended
        exact h.exists_step_of_task (hfits t) hlive
  | collecting taken =>
      rw [hstage] at hfits
      cases hqueue : σ.channel.queue with
      | nil =>
          -- both tasks have ended, so nobody holds the channel any more
          have hsenders : σ.channel.senders = 0 := by
            rw [h.senders, State.holds, hstage, hfits .native, hfits .replay]
            rfl
          exact ⟨_, .close hstage hqueue hsenders⟩
      | cons r rest => exact ⟨_, .receive hstage hqueue⟩
  | closed taken => exact absurd hstage (hopen taken)

/-! ### Runs end -/

/-- How many steps a task can still take at most, from its number of jobs. -/
def Progress.weight (jobs : Nat) : Progress → Nat
  | unborn => 3 * jobs + 4
  | idle _ rest => 3 * rest.length + 3
  | busy _ _ rest => 3 * rest.length + 5
  | failing _ _ _ rest => 3 * rest.length + 4
  | delivered => 1
  | ended => 0

/-- How many steps what started the tasks can still take at most, apart from taking reports out. -/
def Stage.weight : Stage → Nat
  | opened => 5
  | doubled => 4
  | half => 3
  | waiting => 2
  | collecting _ => 1
  | closed _ => 0

/-- How many steps there can still be at most. -/
def State.weight (w : Work) (σ : State) : Nat :=
  σ.stage.weight + (σ.task .native).weight (w.jobs .native).length
    + (σ.task .replay).weight (w.jobs .replay).length + σ.channel.queue.length

/-- A task that moves on and grows lighter makes the state lighter. -/
theorem weight_advance_lt {t : Task} {p : Progress} {session : Session} {senders : Nat}
    (h : p.weight (w.jobs t).length < (σ.task t).weight (w.jobs t).length) :
    State.weight w { σ.advance t p with session, channel := { σ.channel with senders } }
      < σ.weight w := by
  unfold State.weight
  cases t <;> simp <;> omega

/-- **Every step** makes the state lighter, so no run goes on for ever. -/
theorem Sound.weight_step (h : Sound σ) (hstep : Step w σ σ') : σ'.weight w < σ.weight w := by
  have hfits := h.fits
  cases hstep with
  | double hstage => simp [State.weight, hstage, Stage.weight]
  | startNative hstage =>
      rw [hstage] at hfits
      simp [State.weight, hstage, Stage.weight, Progress.weight, hfits .native]
      omega
  | startReplay hstage =>
      rw [hstage] at hfits
      simp [State.weight, hstage, Stage.weight, Progress.weight, hfits.2]
      omega
  | begin t ht =>
      refine weight_advance_lt (t := t) ?_
      simp [ht, Progress.weight]
      omega
  | @finish t verdicts job rest ht =>
      refine weight_advance_lt (t := t) ?_
      cases ((Session.issue w.runner job.command).run σ.session).1 <;>
        simp [ht, Progress.weight, Progress.afterCommand]
  | complain t ht =>
      refine weight_advance_lt (t := t) ?_
      simp [ht, Progress.weight]
  | @send t verdicts ht room =>
      have hlt : (σ.advance t .delivered).weight w + 1 < σ.weight w := by
        unfold State.weight
        cases t <;> simp [ht, Progress.weight] <;> omega
      refine Nat.lt_of_le_of_lt ?_ hlt
      simp [State.weight]
      omega
  | release t ht =>
      refine weight_advance_lt (t := t) ?_
      simp [ht, Progress.weight]
  | join hstage ended => simp [State.weight, hstage, Stage.weight]
  | receive hstage queue => simp [State.weight, hstage, Stage.weight, queue]
  | close hstage queue senders => simp [State.weight, hstage, Stage.weight]

/-- **No run goes on for ever.** -/
theorem Sound.not_endless (h : Sound σ) (f : Nat → State) (hzero : f 0 = σ) :
    ¬ ∀ n, Step w (f n) (f (n + 1)) := by
  intro hsteps
  have hsound : ∀ n, Sound (f n) := by
    intro n
    induction n with
    | zero => rw [hzero]; exact h
    | succ n ih => exact ih.step (hsteps n)
  have hweight : ∀ n, (f n).weight w + n ≤ σ.weight w := by
    intro n
    induction n with
    | zero => rw [hzero]; exact Nat.le_refl _
    | succ n ih =>
        have := (hsound n).weight_step (hsteps n)
        omega
  have := hweight (σ.weight w + 1)
  omega

/-! ## The answer -/

/-- **One report of each task** has been taken out when the channel is closed. -/
theorem Sound.taken_of_closed (h : Sound σ) {taken : List TaskReport}
    (hstage : σ.stage = .closed taken) :
    ∃ outcome reports, taken = [.native outcome, .replay reports]
      ∨ taken = [.replay reports, .native outcome] := by
  have hfits := h.fits
  have hlength := h.length_handedIn
  have hreports := h.reports
  rw [hstage] at hfits
  simp only [State.handedIn, hstage, h.closed taken hstage, Stage.taken, List.append_nil,
    hfits .native, hfits .replay, forall_task] at hlength hreports
  obtain ⟨hnative, hreplay⟩ := hreports
  match taken, hlength with
  | [.native outcome, .replay reports], _ => exact ⟨outcome, reports, Or.inl rfl⟩
  | [.replay reports, .native outcome], _ => exact ⟨outcome, reports, Or.inr rfl⟩
  | [.native _, .native _], _ => cases hreplay
  | [.replay _, .replay _], _ => cases hnative

theorem merge_of_one_each {taken : List TaskReport} {outcome : Outcome}
    {reports : List SourceReport}
    (h : taken = [.native outcome, .replay reports]
      ∨ taken = [.replay reports, .native outcome]) :
    merge taken = (outcome, reports) := by
  rcases h with rfl | rfl <;> rfl

/-! ### Verdicts that depend on the command alone -/

variable {verdict : Command → Verdict}

/-- The verdicts that a task will have at its end. -/
def Progress.foreseen (verdict : Command → Verdict) : Progress → Option (List Verdict)
  | idle verdicts rest => some (verdicts ++ rest.map fun job => verdict job.command)
  | busy verdicts job rest =>
    some (verdicts ++ verdict job.command :: rest.map fun job => verdict job.command)
  | failing verdicts _ e rest =>
    some (verdicts ++ .error e :: rest.map fun job => verdict job.command)
  | _ => none

/-- The verdicts on the jobs of a task. -/
def Work.foreseen (w : Work) (verdict : Command → Verdict) (t : Task) : List Verdict :=
  (w.jobs t).map fun job => verdict job.command

/-- **What is already decided**: the verdicts of the tasks, and with them the reports. -/
structure Foreseen (w : Work) (verdict : Command → Verdict) (σ : State) : Prop where
  task : ∀ t verdicts, (σ.task t).foreseen verdict = some verdicts → verdicts = w.foreseen verdict t
  report : ∀ r ∈ σ.handedIn, r = w.report r.task (w.foreseen verdict r.task)

theorem foreseen_initial (s : Session) : Foreseen w verdict (.initial s) := by
  refine ⟨?_, ?_⟩
  · intro t verdicts h
    cases h
  · intro r hr
    cases hr

/-- A step of a task that hands nothing in changes nothing that is decided. -/
theorem Foreseen.advance (h : Foreseen w verdict σ) {t : Task} {p : Progress} {session : Session}
    {senders : Nat} {stage : Stage} (htaken : stage.taken = σ.stage.taken)
    (hp : ∀ verdicts, p.foreseen verdict = some verdicts → verdicts = w.foreseen verdict t) :
    Foreseen w verdict
      { σ.advance t p with session, stage, channel := { σ.channel with senders } } := by
  refine ⟨?_, ?_⟩
  · intro u verdicts hu
    change ((σ.advance t p).task u).foreseen verdict = _ at hu
    rw [State.task_advance] at hu
    split at hu
    · next hut =>
      subst hut
      exact hp verdicts hu
    · exact h.task u verdicts hu
  · intro r hr
    refine h.report r ?_
    simpa [State.handedIn, htaken] using hr

theorem Foreseen.step (hv : w.runner.Gives verdict) (h : Foreseen w verdict σ)
    (hstep : Step w σ σ') : Foreseen w verdict σ' := by
  cases hstep with
  | double hstage =>
      refine ⟨h.task, ?_⟩
      have := h.report
      simp only [State.handedIn, hstage] at this
      exact this
  | startNative hstage =>
      refine h.advance (t := .native) (by simp [hstage, Stage.taken]) ?_
      intro verdicts hverdicts
      exact (Option.some.inj hverdicts).symm
  | startReplay hstage =>
      refine h.advance (t := .replay) (by simp [hstage, Stage.taken]) ?_
      intro verdicts hverdicts
      exact (Option.some.inj hverdicts).symm
  | begin t ht =>
      refine h.advance (t := t) rfl fun verdicts hverdicts => h.task t verdicts ?_
      rw [ht]
      exact hverdicts
  | @finish t verdicts job rest ht =>
      refine h.advance (t := t) rfl fun decided hdecided => h.task t decided ?_
      -- the verdict that the command gets here is the one that was foreseen
      have hverdict : ((Session.issue w.runner job.command).run σ.session).1
          = verdict job.command := hv _ _ _
      rw [hverdict] at hdecided
      rw [ht, ← hdecided, Progress.foreseen]
      cases verdict job.command <;> simp [Progress.afterCommand, Progress.foreseen]
  | @complain t verdicts job e rest ht =>
      refine h.advance (t := t) rfl fun decided hdecided => h.task t decided ?_
      rw [ht, ← hdecided]
      simp [Progress.foreseen]
  | @send t verdicts ht room =>
      have hverdicts : verdicts = w.foreseen verdict t := h.task t verdicts (by
        rw [ht]
        simp [Progress.foreseen])
      have htask : (w.report t verdicts).task = t := by cases t <;> rfl
      refine ⟨?_, ?_⟩
      · intro u decided hu
        change ((σ.advance t .delivered).task u).foreseen verdict = _ at hu
        rw [State.task_advance] at hu
        split at hu
        · cases hu
        · exact h.task u decided hu
      · intro r hr
        change r ∈ σ.stage.taken ++ (σ.channel.queue ++ [w.report t verdicts]) at hr
        rw [← List.append_assoc, List.mem_append, List.mem_singleton] at hr
        rcases hr with hr | rfl
        · exact h.report r hr
        · rw [htask, ← hverdicts]
  | release t ht =>
      refine h.advance (t := t) rfl ?_
      intro verdicts hverdicts
      cases hverdicts
  | join hstage ended =>
      refine ⟨h.task, ?_⟩
      have hreport := h.report
      simp only [State.handedIn, hstage] at hreport
      exact hreport
  | receive hstage queue =>
      refine ⟨h.task, ?_⟩
      have hreport := h.report
      simp only [State.handedIn, hstage, queue] at hreport
      simpa [State.handedIn, Stage.taken] using hreport
  | close hstage queue senders =>
      refine ⟨h.task, ?_⟩
      have hreport := h.report
      simp only [State.handedIn, hstage] at hreport
      exact hreport

theorem Foreseen.run (hv : w.runner.Gives verdict) (h : Foreseen w verdict σ)
    (hrun : Relation.ReflTransGen (Step w) σ σ') : Foreseen w verdict σ' := by
  induction hrun with
  | refl => exact h
  | tail _ hstep ih => exact ih.step hv hstep

/-- Jobs in a row get the verdicts on their commands. -/
theorem verdicts_mapM {runner : Runner} (hv : runner.Gives verdict) (jobs : List Job)
    (s : Session) :
    ((jobs.mapM (Job.run runner)).run s).1 = jobs.map fun job => verdict job.command := by
  induction jobs generalizing s with
  | nil => rfl
  | cons job jobs ih =>
      rw [run_mapM_cons, ih, List.map_cons, Job.verdict_run, Session.verdict_run, hv]

/-- One task after the other answers what the verdicts on the commands amount to. -/
theorem inTurn_eq (hv : w.runner.Gives verdict) (s : Session) :
    (w.inTurn.run s).1
      = (outcomeOf (verdict (nativeJob w.compiler w.invocation).command),
        reports w.plans (w.foreseen verdict .replay)) := by
  unfold Work.inTurn
  rw [run_bind, run_bind, Job.verdict_run, Session.verdict_run, hv]
  unfold Replay.run
  rw [run_bind, verdicts_mapM hv]
  rfl

/-- **The answer does not depend on the order**: it is that of one task after the other. -/
theorem merge_eq_inTurn (hv : w.runner.Gives verdict) (hsound : Sound σ)
    (hforeseen : Foreseen w verdict σ) {taken : List TaskReport}
    (hstage : σ.stage = .closed taken) (s : Session) : merge taken = (w.inTurn.run s).1 := by
  obtain ⟨outcome, reports, htaken⟩ := hsound.taken_of_closed hstage
  have hmem : ∀ r ∈ taken, r = w.report r.task (w.foreseen verdict r.task) := by
    intro r hr
    refine hforeseen.report r (List.mem_append_left _ ?_)
    rw [hstage]
    exact hr
  have houtcome := hmem (.native outcome) (by rcases htaken with rfl | rfl <;> simp)
  have hreports := hmem (.replay reports) (by rcases htaken with rfl | rfl <;> simp)
  rw [merge_of_one_each htaken, inTurn_eq hv, TaskReport.replay.inj hreports,
    TaskReport.native.inj houtcome]
  simp only [TaskReport.task, Work.foreseen, Work.jobs, List.map_cons, List.map_nil]
  cases verdict (nativeJob w.compiler w.invocation).command <;> rfl

/-! ## The build as one of the runs -/

/-- The state after a task has come to another progress and the session to another state. -/
def State.after (σ : State) (t : Task) (p : Progress) (session : Session) : State :=
  { σ.advance t p with session }

theorem after_after (σ : State) (t : Task) (p q : Progress) (s₁ s₂ : Session) :
    (σ.after t p s₁).after t q s₂ = σ.after t q s₂ := by
  unfold State.after State.advance
  simp only [State.mk.injEq, and_true, true_and]
  funext u
  split <;> rfl

theorem after_self (σ : State) {t : Task} {p : Progress} (h : σ.task t = p) :
    σ.after t p σ.session = σ := by
  unfold State.after State.advance
  cases σ
  simp only [State.mk.injEq, and_true, true_and]
  funext u
  split
  · next hu => rw [hu]; exact h.symm
  · rfl

/-- Running a command is announcing it and issuing it. -/
theorem run_command (runner : Runner) (command : Command) (s : Session) :
    (Session.run runner command).run s
      = (Session.issue runner command).run ((announce runner command).run s).2 := by
  unfold Session.run announce
  cases runner.announces <;> rfl

/-- A task can do its next job without a pause. -/
theorem run_job (σ : State) {t : Task} {verdicts : List Verdict} {job : Job} {rest : List Job}
    (h : σ.task t = .idle verdicts (job :: rest)) :
    Relation.ReflTransGen (Step w) σ
      (σ.after t (.idle (verdicts ++ [((job.run w.runner).run σ.session).1]) rest)
        ((job.run w.runner).run σ.session).2) := by
  have hbegin : Step w σ (σ.after t (.busy verdicts job rest)
      ((announce w.runner job.command).run σ.session).2) := .begin t h
  have hbusy : (σ.after t (.busy verdicts job rest)
      ((announce w.runner job.command).run σ.session).2).task t = .busy verdicts job rest :=
    if_pos rfl
  have hfinish : Step w _ (State.after _ t _ _) := .finish t hbusy
  refine .trans (.single hbegin) (.trans (.single hfinish) ?_)
  rw [after_after]
  unfold Job.run
  rw [run_bind, run_command]
  -- what follows the command depends on its verdict
  generalize hverdict : (Session.issue w.runner job.command).run
    ((announce w.runner job.command).run σ.session).2 = answer
  have hanswer : (Session.issue w.runner job.command).run
      (σ.after t (.busy verdicts job rest)
        ((announce w.runner job.command).run σ.session).2).session = answer := hverdict
  rw [hanswer]
  obtain ⟨e | _, session⟩ := answer
  · have hfailing : (σ.after t (.failing verdicts job e rest) session).task t
        = .failing verdicts job e rest := if_pos rfl
    have hcomplain : Step w _ (State.after _ t _ _) := .complain t hfailing
    rw [after_after] at hcomplain
    exact .single hcomplain
  · exact .refl

/-- A task can do all its jobs without a pause. -/
theorem run_jobs (σ : State) {t : Task} (jobs rest : List Job) {verdicts : List Verdict}
    (h : σ.task t = .idle verdicts (jobs ++ rest)) :
    Relation.ReflTransGen (Step w) σ
      (σ.after t (.idle (verdicts ++ ((jobs.mapM (Job.run w.runner)).run σ.session).1) rest)
        ((jobs.mapM (Job.run w.runner)).run σ.session).2) := by
  induction jobs generalizing σ verdicts with
  | nil =>
      have hidle : σ.task t = .idle (verdicts ++ []) rest := by
        rw [h, List.append_nil]
        rfl
      show Relation.ReflTransGen (Step w) σ
        (σ.after t (.idle (verdicts ++ []) rest) σ.session)
      rw [after_self σ hidle]
  | cons job jobs ih =>
      have hlater := ih (σ.after t
        (.idle (verdicts ++ [((job.run w.runner).run σ.session).1]) (jobs ++ rest))
        ((job.run w.runner).run σ.session).2) (if_pos rfl)
      rw [after_after, List.append_assoc] at hlater
      rw [run_mapM_cons]
      exact .trans (run_job σ h) hlater

theorem report_native (v : Verdict) : w.report .native [v] = .native (outcomeOf v) := by
  cases v <;> rfl

/-- Both tasks can be started before either of them does anything. -/
theorem exists_run_started (w : Work) (s : Session) :
    ∃ σ, Relation.ReflTransGen (Step w) (.initial s) σ ∧ σ.session = s
      ∧ (∀ t, σ.task t = .idle [] (w.jobs t)) ∧ σ.channel = ⟨[], 2⟩ ∧ σ.stage = .waiting := by
  refine ⟨_, .tail (.tail (.single (.double rfl)) (.startNative rfl)) (.startReplay rfl),
    rfl, ?_, rfl, rfl⟩
  rw [forall_task]
  exact ⟨rfl, rfl⟩

/-- Once both tasks have done their jobs, the reports can be handed in and taken out without a
pause. -/
theorem exists_run_closed (σ : State) {v : Verdict} {verdicts : List Verdict}
    (hnative : σ.task .native = .idle [v] []) (hreplay : σ.task .replay = .idle verdicts [])
    (hchannel : σ.channel = ⟨[], 2⟩) (hstage : σ.stage = .waiting) :
    ∃ σ', Relation.ReflTransGen (Step w) σ σ' ∧ σ'.session = σ.session
      ∧ σ'.stage = .closed [.native (outcomeOf v), .replay (reports w.plans verdicts)] := by
  obtain ⟨session, task, channel, stage⟩ := σ
  cases hchannel
  cases hstage
  -- hand in, let go, twice; then wait, take out twice, and close
  have hhand : Relation.ReflTransGen (Step w) _ _ :=
    .tail (.tail (.tail (.single (.send .native hnative (by simp [Channel.capacity])))
      (.release .native rfl))
      (.send .replay hreplay (by simp [Channel.capacity]))) (.release .replay rfl)
  refine ⟨_, .tail (.tail (.tail (.tail hhand (.join rfl (forall_task.2 ⟨rfl, rfl⟩)))
    (.receive rfl rfl)) (.receive rfl rfl)) (.close rfl rfl rfl), rfl, ?_⟩
  rw [report_native]
  rfl

/-- **A build is a run.** Where the native compile waits for some jobs of the replay, the answer and
the session of the build are those of a run that lets it wait so. -/
theorem exists_run_build (w : Work) (s : Session) :
    ∃ σ taken, Relation.ReflTransGen (Step w) (.initial s) σ ∧ σ.stage = .closed taken
      ∧ merge taken = ((w.compilation.build w.compiler w.invocation w.naming).run s).1
      ∧ σ.session = ((w.compilation.build w.compiler w.invocation w.naming).run s).2 := by
  obtain ⟨σ, hstarted, hsession, htask, hchannel, hstage⟩ := exists_run_started w s
  cases hsession
  -- the replay does the jobs of its turn, the native compile its one, the replay the others
  have hearly := run_jobs (w := w) σ (t := .replay)
    ((w.jobs .replay).take w.compilation.turn) ((w.jobs .replay).drop w.compilation.turn)
    ((htask .replay).trans (by rw [List.take_append_drop]))
  generalize hσ₁ : σ.after .replay _ _ = σ₁ at hearly
  have hnative := run_job (w := w) σ₁ (t := .native)
    ((show σ₁.task .native = σ.task .native by rw [← hσ₁]; rfl).trans (htask .native))
  generalize hσ₂ : σ₁.after .native _ _ = σ₂ at hnative
  have hlate := run_jobs (w := w) σ₂ (t := .replay)
    ((w.jobs .replay).drop w.compilation.turn) [] (by rw [← hσ₂, ← hσ₁, List.append_nil]; rfl)
  generalize hσ₃ : σ₂.after .replay _ _ = σ₃ at hlate
  obtain ⟨σ₄, hclosed, hsession₄, hstage₄⟩ := exists_run_closed (w := w) σ₃
    (by rw [← hσ₃, ← hσ₂]; rfl) (by rw [← hσ₃]; rfl)
    (by rw [← hσ₃, ← hσ₂, ← hσ₁]; exact hchannel)
    (by rw [← hσ₃, ← hσ₂, ← hσ₁]; exact hstage)
  refine ⟨σ₄, _, hstarted.trans (hearly.trans (hnative.trans (hlate.trans hclosed))), hstage₄,
    ?_, ?_⟩
  · rw [merge_of_one_each (.inl rfl), ← hσ₂, ← hσ₁]
    rfl
  · rw [hsession₄, ← hσ₃, ← hσ₂, ← hσ₁]
    rfl

/-! ## Every run -/

/-- **Two tasks side by side lose nothing and do not get stuck.** In every state that any order of
steps leads to: a task whose jobs are done finds room for its report; unless the channel is closed
there is a next step; and no steps go on for ever. When the channel is closed, exactly one report of
each task has been taken out, in one order or the other, and both are in the answer. If the verdict
on a command depends on the command alone, the answer is that of one task after the other. -/
theorem merges_both_reports (w : Work) (s : Session) {σ : State}
    (hrun : Relation.ReflTransGen (Step w) (.initial s) σ) :
    (∀ t verdicts, σ.task t = .idle verdicts [] → σ.channel.queue.length < Channel.capacity)
    ∧ ((∀ taken, σ.stage ≠ .closed taken) → ∃ σ', Step w σ σ')
    ∧ (∀ f : Nat → State, f 0 = σ → ¬ ∀ n, Step w (f n) (f (n + 1)))
    ∧ ∀ taken, σ.stage = .closed taken →
      (∃ outcome reports,
        (taken = [.native outcome, .replay reports]
          ∨ taken = [.replay reports, .native outcome])
        ∧ outcomeIn taken = some outcome ∧ reportsIn taken = some reports
        ∧ merge taken = (outcome, reports))
      ∧ ∀ verdict, w.runner.Gives verdict → merge taken = (w.inTurn.run s).1 := by
  have hsound : Sound σ := (sound_initial s).run hrun
  refine ⟨fun t verdicts ht => hsound.room ht, hsound.exists_step, hsound.not_endless, ?_⟩
  intro taken hstage
  constructor
  · obtain ⟨outcome, reports, htaken⟩ := hsound.taken_of_closed hstage
    refine ⟨outcome, reports, htaken, ?_, ?_, merge_of_one_each htaken⟩
    · rcases htaken with rfl | rfl <;> rfl
    · rcases htaken with rfl | rfl <;> rfl
  · intro verdict hv
    exact merge_eq_inTurn hv hsound ((foreseen_initial s).run hv hrun) hstage s

/-- The verdict of a rehearsal depends on the command alone. -/
theorem gives_rehearsal (r : Rehearsal) :
    r.runner.Gives fun command =>
      ((r.rules.find? (·.isMet command)).getD {}).ending.verdict command := by
  intro earlier command h
  unfold Rehearsal.runner
  cases hverdict : ((r.rules.find? (·.isMet command)).getD {}).ending.verdict command with
  | error e => simp [hverdict]
  | ok u => simp [hverdict]

/-- Two sources beside a native compile that fails while the replay is under way. -/
theorem merges_failed_compile :
    let w : Work :=
      { compilation :=
          { runner := Rehearsal.runner
              { rules := [{ excluded := [Octets.ofString "-c"], ending := .status 1 }] }
            turn := 2 }
        compiler := .ofString "/cc"
        invocation := .ofArguments [Octets.ofString "a.c", Octets.ofString "b.c"]
        naming := .hidden (.ofString "/s") }
    let s : Session := { host := { files := ⟨[]⟩, cwd := { place := [] } } }
    ∃ σ taken, Relation.ReflTransGen (Step w) (.initial s) σ ∧ σ.stage = .closed taken
      ∧ merge taken = (w.inTurn.run s).1 ∧ (merge taken).1 = .failure
      ∧ (merge taken).2.length = 2 := by
  intro w s
  obtain ⟨σ, taken, hrun, hstage, -⟩ := exists_run_build w s
  have hmerge := ((merges_both_reports w s hrun).2.2.2 taken hstage).2 _ (gives_rehearsal _)
  refine ⟨σ, taken, hrun, hstage, hmerge, ?_, ?_⟩
  · rw [hmerge]
    decide +kernel
  · rw [hmerge]
    decide +kernel

end SideBySide

end TwinBuild
