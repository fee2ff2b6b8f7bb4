import TwinBuild.Proofs.CommandTrace

/-!
# What commands do to the host

The journal of a session tells on which host each command was issued, and the runner which host it
has left. The builds and the link do nothing to the host themselves: there each command finds what
the one before has left, so what all commands keep is kept from beginning to end.

Main statements: `Chained.keeps`, `Chained.unchanged`, and `bare_build`.
-/

namespace TwinBuild

/-- A place is as it was. -/
def Host.SameAt (q : Place) (h h' : Host) : Prop := h'.files.get? q = h.files.get? q

namespace Runner

variable {runner : Runner} {R : Host → Host → Prop} {h h' h'' : Host}

/-- The host that a command of a journal leaves, which follows some earlier ones. -/
def after (runner : Runner) (earlier : List Command) (e : Issue) : Host :=
  (runner.run earlier e.command e.before).2

/-- **A runner obeys a rule** in a journal that follows some earlier commands: each command of it
changes the host as the rule allows. -/
def Obeys (runner : Runner) (R : Host → Host → Prop) : List Command → List Issue → Prop
  | _, [] => True
  | earlier, e :: rest =>
    R e.before (runner.after earlier e) ∧ Obeys runner R (earlier ++ [e.command]) rest

/-- **A chain**: each command of a journal finds the host as the one before has left it. -/
def Chained (runner : Runner) : List Command → Host → List Issue → Host → Prop
  | _, h, [], h' => h' = h
  | earlier, h, e :: rest, h' =>
    e.before = h ∧ Chained runner (earlier ++ [e.command]) (runner.after earlier e) rest h'

theorem obeys_append {earlier : List Command} {a b : List Issue} :
    runner.Obeys R earlier (a ++ b)
      ↔ runner.Obeys R earlier a ∧ runner.Obeys R (earlier ++ a.map Issue.command) b := by
  induction a generalizing earlier with
  | nil => simp [Obeys]
  | cons e a ih =>
      show R _ _ ∧ runner.Obeys R _ (a ++ b) ↔ (R _ _ ∧ runner.Obeys R _ a) ∧ _
      rw [ih, and_assoc, List.map_cons, List.append_cons earlier _ (a.map Issue.command)]

theorem Chained.append {earlier : List Command} {a b : List Issue}
    (ha : runner.Chained earlier h a h')
    (hb : runner.Chained (earlier ++ a.map Issue.command) h' b h'') :
    runner.Chained earlier h (a ++ b) h'' := by
  induction a generalizing earlier h with
  | nil =>
      cases (ha : h' = h)
      rwa [List.map_nil, List.append_nil] at hb
  | cons e a ih =>
      rw [List.map_cons, List.append_cons] at hb
      exact ⟨ha.1, ih ha.2 hb⟩

theorem Chained.append_inv {earlier : List Command} {a b : List Issue}
    (hab : runner.Chained earlier h (a ++ b) h'') :
    ∃ h', runner.Chained earlier h a h'
      ∧ runner.Chained (earlier ++ a.map Issue.command) h' b h'' := by
  induction a generalizing earlier h with
  | nil =>
      refine ⟨h, rfl, ?_⟩
      rwa [List.map_nil, List.append_nil]
  | cons e a ih =>
      obtain ⟨h', ha, hb⟩ := ih hab.2
      refine ⟨h', ⟨hab.1, ha⟩, ?_⟩
      rwa [List.map_cons, List.append_cons]

/-- **What every command keeps** holds of each host on the way and of the last one. -/
theorem Chained.keeps {I : Host → Prop} (hstep : ∀ h h', I h → R h h' → I h')
    {earlier : List Command} {issues : List Issue} (hchain : runner.Chained earlier h issues h')
    (hobeys : runner.Obeys R earlier issues) (hI : I h) : I h' ∧ ∀ e ∈ issues, I e.before := by
  induction issues generalizing earlier h with
  | nil =>
      cases (hchain : h' = h)
      exact ⟨hI, List.forall_mem_nil _⟩
  | cons e issues ih =>
      obtain ⟨rfl, hrest⟩ := hchain
      obtain ⟨hlast, hall⟩ := ih hrest hobeys.2 (hstep _ _ hI hobeys.1)
      refine ⟨hlast, ?_⟩
      rw [List.forall_mem_cons]
      exact ⟨hI, hall⟩

/-- **What a command of a chain has left** at a place is there in the end, if no later command has
changed that place. -/
theorem Chained.unchanged {earlier : List Command} {before later : List Issue} {e : Issue}
    (hchain : runner.Chained earlier h (before ++ e :: later) h') {q : Place}
    (hlater : runner.Obeys (Host.SameAt q) (earlier ++ (before ++ [e]).map Issue.command) later) :
    h'.files.get? q
      = (runner.after (earlier ++ before.map Issue.command) e).files.get? q := by
  obtain ⟨between, -, -, hrest⟩ := hchain.append_inv
  rw [List.map_append, ← List.append_assoc] at hlater
  have hstep : ∀ g g' : Host,
      g.files.get? q = (runner.after (earlier ++ before.map Issue.command) e).files.get? q →
      Host.SameAt q g g' →
      g'.files.get? q = (runner.after (earlier ++ before.map Issue.command) e).files.get? q :=
    fun _ _ hbefore hsame => hsame.trans hbefore
  exact (hrest.keeps hstep hlater rfl).1

end Runner

namespace Session

variable {α β : Type} {x : SessionM α} {f : α → SessionM β} {s : Session} {a b : List Issue}
  {runner : Runner}

/-- A computation has one list of entries. -/
theorem Adds.unique (ha : Adds x s a) (hb : Adds x s b) : a = b :=
  List.append_cancel_left (ha.symm.trans hb)

theorem Adds.commands_eq (h : Adds x s a) :
    (x.run s).2.commands = s.commands ++ a.map Issue.command := by
  unfold commands
  rw [h, List.map_append]

/-- **A computation that does nothing to the host but by its commands.** -/
def Bare (runner : Runner) (x : SessionM α) : Prop :=
  ∀ s, ∃ new, Adds x s new ∧ runner.Chained s.commands s.host new (x.run s).2.host

theorem Bare.chained (hbare : Bare runner x) (h : Adds x s a) :
    runner.Chained s.commands s.host a (x.run s).2.host := by
  obtain ⟨new, hnew, hchain⟩ := hbare s
  rw [h.unique hnew]
  exact hchain

theorem bare_pure (r : α) : Bare runner (pure r) := fun s => ⟨[], quiet_pure r s, rfl⟩

theorem bare_say (level : Log.Level) (part : Log.Part) (text : String) :
    Bare runner (say level part text) := fun s => ⟨[], quiet_say level part text s, rfl⟩

theorem Bare.bind (hx : Bare runner x) (hf : ∀ r, Bare runner (f r)) :
    Bare runner (x >>= f) := by
  intro s
  obtain ⟨a, ha, hfirst⟩ := hx s
  obtain ⟨b, hb, hsecond⟩ := hf (x.run s).1 (x.run s).2
  refine ⟨a ++ b, ha.bind hb, hfirst.append ?_⟩
  rw [← ha.commands_eq]
  exact hsecond

/-- A command is a chain by itself. -/
theorem bare_run (runner : Runner) (command : Command) : Bare runner (run runner command) := by
  intro s
  exact ⟨_, adds_run runner command s, rfl, host_run runner command s⟩

theorem bare_mapM {g : α → SessionM β} (hg : ∀ r, Bare runner (g r)) (rs : List α) :
    Bare runner (rs.mapM g) := by
  induction rs with
  | nil => exact bare_pure []
  | cons r rs ih =>
      rw [List.mapM_cons]
      exact (hg r).bind fun _ => ih.bind fun _ => bare_pure _

end Session

open Session

theorem Job.bare_run (runner : Runner) (job : Job) : Bare runner (job.run runner) := by
  refine (Session.bare_run runner job.command).bind fun verdict => ?_
  cases verdict with
  | ok => exact bare_pure _
  | error e => exact (bare_say _ _ _).bind fun _ => bare_pure _

namespace Compilation

open Replay

variable (c : Compilation) (compiler : Path) (i : Invocation)

/-- **The builds** do nothing to the host but by their commands. -/
theorem bare_build (naming : Naming) : Bare c.runner (c.build compiler i naming) := by
  refine Bare.bind ?_ fun _ => bare_pure _
  refine (bare_mapM (Job.bare_run c.runner) _).bind fun _ => ?_
  refine (Job.bare_run c.runner _).bind fun _ => ?_
  exact (bare_mapM (Job.bare_run c.runner) _).bind fun _ => bare_pure _

theorem bare_passThrough (why : Bypass) : Bare c.runner (c.passThrough compiler i why) := by
  refine (bare_say _ _ _).bind fun _ => ?_
  exact (Job.bare_run c.runner _).bind fun _ => bare_pure _

theorem bare_relink (objects : List Path) : Bare c.runner (c.relink compiler i objects) := by
  refine (bare_say _ _ _).bind fun _ => (Session.bare_run c.runner _).bind fun verdict => ?_
  cases verdict with
  | ok => exact bare_pure _
  | error e => exact bare_say _ _ _

end Compilation

end TwinBuild
