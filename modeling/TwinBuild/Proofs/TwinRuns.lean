import Mathlib.Data.List.Forall2
import TwinBuild.Proofs.CommandTrace

/-!
# Two runs side by side

A relation between commands says which commands stand for one another in two runs. Two sessions match
if they are on the same host and have issued such commands, each from the same host and with the same
success. Computations are twins if they take matching sessions to matching sessions. There is a rule
for each way of putting a computation together, so that a program need only be gone through once.

What carries the commands out may be two runners, as long as they agree: on commands that stand for one
another they succeed alike and leave the same host.

Main statements: `Twins.bind`, `twins_mapM`, and `AreTwins.compile`, two compilations whose replays stand
for one another.
-/

namespace TwinBuild

variable {R : Command → Command → Prop}

/-! ## Matching sessions -/

/-- **Matching entries** of two journals. -/
structure Issue.Match (R : Command → Command → Prop) (e₁ e₂ : Issue) : Prop where
  command : R e₁.command e₂.command
  before : e₁.before = e₂.before
  verdict : e₁.verdict.isOk = e₂.verdict.isOk

/-- **Matching sessions**, which may differ in what they have logged. -/
structure Session.Match (R : Command → Command → Prop) (s₁ s₂ : Session) : Prop where
  host : s₁.host = s₂.host
  issued : List.Forall₂ (Issue.Match R) s₁.issued s₂.issued

/-- **Runners that agree** on commands that stand for one another, after such commands and on one
host. -/
def Runner.Agree (R : Command → Command → Prop) (r₁ r₂ : Runner) : Prop :=
  ∀ past₁ past₂ c₁ c₂ h, List.Forall₂ R past₁ past₂ → R c₁ c₂ →
    (r₁.run past₁ c₁ h).1.isOk = (r₂.run past₂ c₂ h).1.isOk
    ∧ (r₁.run past₁ c₁ h).2 = (r₂.run past₂ c₂ h).2

namespace Session

theorem Match.commands {s₁ s₂ : Session} (h : s₁.Match R s₂) :
    List.Forall₂ R s₁.commands s₂.commands := by
  unfold Session.commands
  rw [List.forall₂_map_left_iff, List.forall₂_map_right_iff]
  exact h.issued.imp fun _ _ hmatch => hmatch.command

/-- **Twins**: from matching sessions they come to matching sessions, with answers that are related. -/
def Twins {α β : Type} (R : Command → Command → Prop) (x₁ : SessionM α) (x₂ : SessionM β)
    (Q : α → β → Prop) : Prop :=
  ∀ s₁ s₂, s₁.Match R s₂ → Q (x₁.run s₁).1 (x₂.run s₂).1 ∧ (x₁.run s₁).2.Match R (x₂.run s₂).2

/-! ## Rules -/

variable {α β γ δ : Type} {Q : α → β → Prop}

theorem Twins.bind {P : γ → δ → Prop} {x₁ : SessionM α} {x₂ : SessionM β}
    {f₁ : α → SessionM γ} {f₂ : β → SessionM δ} (hx : Twins R x₁ x₂ Q)
    (hf : ∀ a b, Q a b → Twins R (f₁ a) (f₂ b) P) : Twins R (x₁ >>= f₁) (x₂ >>= f₂) P := by
  intro s₁ s₂ hmatch
  obtain ⟨hanswer, hafter⟩ := hx s₁ s₂ hmatch
  exact hf _ _ hanswer _ _ hafter

/-- Twins with one answer, and then whatever are twins after it. -/
theorem Twins.bind_same {P : γ → δ → Prop} {x₁ x₂ : SessionM α} {f₁ : α → SessionM γ}
    {f₂ : α → SessionM δ} (hx : Twins R x₁ x₂ Eq) (hf : ∀ a, Twins R (f₁ a) (f₂ a) P) :
    Twins R (x₁ >>= f₁) (x₂ >>= f₂) P :=
  hx.bind fun a _ hab => hab ▸ hf a

theorem twins_pure {a : α} {b : β} (h : Q a b) : Twins R (pure a) (pure b) Q :=
  fun _ _ hmatch => ⟨h, hmatch⟩

theorem twins_get : Twins R get get fun s₁ s₂ => s₁.host = s₂.host :=
  fun _ _ hmatch => ⟨hmatch.host, hmatch⟩

theorem twins_say {level level' : Log.Level} {part part' : Log.Part} {text text' : String} :
    Twins R (say level part text) (say level' part' text') Eq :=
  fun _ _ hmatch => ⟨rfl, hmatch.host, hmatch.issued⟩

/-- What is answered after something is logged. -/
theorem twins_say_pure {level level' : Log.Level} {part part' : Log.Part} {text text' : String}
    {a : α} {b : β} (h : Q a b) :
    Twins R (say level part text >>= fun _ => pure a) (say level' part' text' >>= fun _ => pure b) Q :=
  twins_say.bind_same fun _ => twins_pure h

theorem twins_onHost {ε : Type} (act : ExceptT ε (StateM Host) α) :
    Twins R (onHost act) (onHost act) Eq := by
  intro s₁ s₂ hmatch
  rw [run_onHost, run_onHost, hmatch.host]
  exact ⟨rfl, rfl, hmatch.issued⟩

/-- Commands that stand for one another, carried out by runners that agree. -/
theorem twins_run {r₁ r₂ : Runner} (hagree : r₁.Agree R r₂) {c₁ c₂ : Command} (hc : R c₁ c₂) :
    Twins R (run r₁ c₁) (run r₂ c₂) fun v w => v.isOk = w.isOk := by
  intro s₁ s₂ hmatch
  obtain ⟨hverdict, hhost⟩ := hagree _ _ c₁ c₂ s₁.host hmatch.commands hc
  rw [verdict_run, verdict_run, ← hmatch.host]
  refine ⟨hverdict, ?_, ?_⟩
  · rw [host_run, host_run, ← hmatch.host]
    exact hhost
  · rw [issued_run, issued_run, ← hmatch.host]
    exact List.rel_append hmatch.issued (.cons ⟨hc, rfl, hverdict⟩ .nil)

/-- Verdicts that succeed alike are both of success or both of failure. -/
theorem verdicts_alike {v w : Verdict} (h : v.isOk = w.isOk) :
    (v = .ok () ∧ w = .ok ()) ∨ ∃ e e', v = .error e ∧ w = .error e' := by
  cases v <;> cases w
  · exact .inr ⟨_, _, rfl, rfl⟩
  · cases h
  · cases h
  · exact .inl ⟨rfl, rfl⟩

/-- **Rows** of twins. -/
theorem twins_mapM {S : γ → δ → Prop} {g₁ : γ → SessionM α} {g₂ : δ → SessionM β}
    (hg : ∀ x y, S x y → Twins R (g₁ x) (g₂ y) Q) {xs : List γ} {ys : List δ}
    (h : List.Forall₂ S xs ys) : Twins R (xs.mapM g₁) (ys.mapM g₂) (List.Forall₂ Q) := by
  induction h with
  | nil => exact twins_pure .nil
  | cons hxy _ ih =>
      rw [List.mapM_cons, List.mapM_cons]
      exact (hg _ _ hxy).bind fun a b hab => ih.bind fun as bs hrest => twins_pure (.cons hab hrest)

/-- Twins add matching entries. -/
theorem Twins.forall₂_new {x₁ : SessionM α} {x₂ : SessionM β} (hx : Twins R x₁ x₂ Q)
    {s₁ s₂ : Session} (hmatch : s₁.Match R s₂) {new₁ new₂ : List Issue} (h₁ : Adds x₁ s₁ new₁)
    (h₂ : Adds x₂ s₂ new₂) : List.Forall₂ (Issue.Match R) new₁ new₂ := by
  have hissued := (hx s₁ s₂ hmatch).2.issued
  rw [h₁, h₂] at hissued
  have hdrop := List.forall₂_drop s₁.issued.length hissued
  rwa [List.drop_left, hmatch.issued.length_eq, List.drop_left] at hdrop

end Session

open Session

variable {r₁ r₂ : Runner}

/-- Jobs whose commands stand for one another. -/
theorem Job.twins_run (hagree : r₁.Agree R r₂) {j₁ j₂ : Job} (h : R j₁.command j₂.command) :
    Twins R (j₁.run r₁) (j₂.run r₂) fun v w => v.isOk = w.isOk := by
  refine (Session.twins_run hagree h).bind fun v w hvw => ?_
  obtain ⟨rfl, rfl⟩ | ⟨e, e', rfl, rfl⟩ := verdicts_alike hvw
  · exact twins_pure rfl
  · exact twins_say_pure rfl

/-! ## Attaching -/

namespace Attachment

variable (hagree : r₁.Agree R r₂) (hrefl : ∀ c, R c c) (embedder : Embedder)
  (archive? : Option Archive)

theorem twins_store (bitcode : Path) :
    Twins R (store archive? bitcode) (store archive? bitcode) Eq := by
  cases archive? with
  | none => exact twins_pure rfl
  | some archive =>
      refine (twins_onHost (archive.store bitcode)).bind_same fun stored => ?_
      cases stored with
      | ok entry => exact twins_pure rfl
      | error e => exact twins_say_pure rfl

include hagree hrefl

theorem twins_embed (object payload : Path) :
    Twins R (embed r₁ embedder object payload) (embed r₂ embedder object payload) Eq := by
  refine (Session.twins_run hagree (hrefl _)).bind fun v w hvw => ?_
  -- after the command, what comes of the removal is logged or not
  obtain ⟨rfl, rfl⟩ | ⟨e, e', rfl, rfl⟩ := verdicts_alike hvw
  · refine (twins_onHost _).bind_same fun removed => ?_
    cases removed with
    | ok => exact twins_pure rfl
    | error fault => exact twins_say_pure rfl
  · refine twins_say.bind_same fun _ => (twins_onHost _).bind_same fun removed => ?_
    cases removed with
    | ok => exact twins_pure rfl
    | error fault => exact twins_say_pure rfl

theorem twins_attachClean (object bitcode : Path) :
    Twins R (attachClean r₁ embedder archive? object bitcode)
      (attachClean r₂ embedder archive? object bitcode) Eq := by
  refine (twins_onHost (writePayload bitcode)).bind_same fun payload => ?_
  cases payload with
  | error fault => exact twins_say_pure rfl
  | ok payload =>
      refine (twins_embed hagree hrefl embedder object payload).bind_same fun embedded => ?_
      exact (twins_store archive? bitcode).bind_same fun stored => twins_pure rfl

/-- **Attaching** the same pair. -/
theorem twins_attach (p : Pairing) :
    Twins R (attach r₁ embedder archive? p) (attach r₂ embedder archive? p) Eq := by
  unfold attach
  split
  · refine twins_get.bind fun s₁ s₂ hhost => ?_
    rw [hhost]
    split
    · exact twins_say_pure rfl
    · exact twins_attachClean hagree hrefl embedder archive? _ _
  · exact twins_say_pure rfl

end Attachment

/-! ## Compilations -/

namespace Compilation

open Replay Attachment

/-- The jobs of the replay of an invocation. -/
def jobs (c : Compilation) (compiler : Path) (i : Invocation) (naming : Naming) : List Job :=
  ((Recipe.mk compiler c.settings.bitcodeFlags).plans i naming).flatMap Plan.jobs

/-- **Compilations that are twins on an invocation**: they have the same choices, but for what makes
jobs of the replay that stand for one another, and runners that agree. -/
structure AreTwins (R : Command → Command → Prop) (compiler : Path) (i : Invocation)
    (c₁ c₂ : Compilation) : Prop where
  refl : ∀ c, R c c
  agree : c₁.runner.Agree R c₂.runner
  turn : c₂.turn = c₁.turn
  configuring : c₂.settings.configuring = c₁.settings.configuring
  archive : c₂.settings.archive = c₁.settings.archive
  embedder : Embedder.ofSettings c₂.settings = Embedder.ofSettings c₁.settings
  jobs : ∀ naming, List.Forall₂ (fun j₁ j₂ => R j₁.command j₂.command)
    (c₁.jobs compiler i naming) (c₂.jobs compiler i naming)

variable {compiler : Path} {i : Invocation} {c₁ c₂ : Compilation}

theorem twins_makeScratch (i : Invocation) :
    Twins R (makeScratch i) (makeScratch i) fun a b =>
      b = a ∧ ∀ scratch, a = .ok scratch → makesObjects (namingOf scratch) = !i.compilesOnly := by
  intro s₁ s₂ hmatch
  have hsame : Twins R (makeScratch i) (makeScratch i) Eq := by
    unfold makeScratch
    split
    · exact twins_pure rfl
    · refine twins_get.bind fun s₁ s₂ hhost => ?_
      rw [hhost]
      exact (twins_onHost _).bind_same fun made => twins_pure rfl
  obtain ⟨hanswer, hafter⟩ := hsame s₁ s₂ hmatch
  exact ⟨⟨hanswer.symm, fun scratch h => makesObjects_of_makeScratch i h⟩, hafter⟩

theorem twins_removeScratch (scratch : Option Path) :
    Twins R (removeScratch scratch) (removeScratch scratch) Eq := by
  cases scratch with
  | none => exact twins_pure rfl
  | some dir =>
      refine (twins_onHost _).bind_same fun removed => ?_
      cases removed with
      | ok => exact twins_pure rfl
      | error fault => exact twins_say

theorem twins_keepScratch (scratch : Option Path) :
    Twins R (keepScratch scratch) (keepScratch scratch) Eq := by
  cases scratch with
  | none => exact twins_pure rfl
  | some dir => exact twins_say

/-- Whether the answer of the builds is that one of them failed. -/
def hasFailed (answer : Outcome × List SourceReport) : Bool :=
  decide (answer.1 = .failure) || hasFailures answer.2

namespace AreTwins

variable (h : AreTwins R compiler i c₁ c₂)
include h

theorem runSideBySide {jobs₁ jobs₂ : List Job}
    (hjobs : List.Forall₂ (fun j₁ j₂ => R j₁.command j₂.command) jobs₁ jobs₂) :
    Twins R (c₁.runSideBySide (nativeJob compiler i) jobs₁)
      (c₂.runSideBySide (nativeJob compiler i) jobs₂) fun _ _ => True := by
  unfold Compilation.runSideBySide
  rw [h.turn]
  have hrow {row₁ row₂ : List Job}
      (hrow : List.Forall₂ (fun j₁ j₂ => R j₁.command j₂.command) row₁ row₂) :=
    twins_mapM (fun _ _ hjob => Job.twins_run h.agree hjob) hrow
  refine (hrow (List.forall₂_take _ hjobs)).bind fun early₁ early₂ _ => ?_
  refine (Job.twins_run h.agree (h.refl _)).bind fun native₁ native₂ _ => ?_
  exact (hrow (List.forall₂_drop _ hjobs)).bind fun late₁ late₂ _ => twins_pure trivial

/-- The builds have failed in both runs or in neither, and in the latter case have the same pairs and
objects. -/
theorem build {naming : Naming} (hmakes : makesObjects naming = !i.compilesOnly) :
    Twins R (c₁.build compiler i naming) (c₂.build compiler i naming) fun a b =>
      hasFailed b = hasFailed a
      ∧ (hasFailed a = false → pairings b.2 = pairings a.2
        ∧ (i.compilesOnly = false → newObjects b.2 = newObjects a.2)) := by
  intro s₁ s₂ hmatch
  have hbuild : Twins R (c₁.build compiler i naming) (c₂.build compiler i naming)
      fun _ _ => True :=
    (h.runSideBySide (h.jobs naming)).bind fun _ _ _ => twins_pure trivial
  refine ⟨?_, (hbuild s₁ s₂ hmatch).2⟩
  obtain ⟨b₁, hadds₁, -, hfailed₁, hreports₁⟩ :=
    c₁.exists_builds_build compiler i naming hmakes s₁
  obtain ⟨b₂, hadds₂, -, hfailed₂, hreports₂⟩ :=
    c₂.exists_builds_build compiler i naming hmakes s₂
  have hsucceeded : b₁.succeeded = b₂.succeeded := by
    have hentries := hbuild.forall₂_new hmatch hadds₁ hadds₂
    unfold Builds.succeeded
    generalize b₁.entries = entries₁ at hentries
    generalize b₂.entries = entries₂ at hentries
    induction hentries with
    | nil => rfl
    | cons hentry _ ih => rw [List.all_cons, List.all_cons, ih, hentry.verdict]
  unfold hasFailed
  rw [hfailed₁, hfailed₂, hsucceeded]
  refine ⟨rfl, fun hok => ?_⟩
  rw [Bool.not_eq_false'] at hok
  obtain ⟨hpairings₁, hobjects₁⟩ := hreports₁ (hsucceeded.trans hok)
  obtain ⟨hpairings₂, hobjects₂⟩ := hreports₂ hok
  refine ⟨hpairings₂.trans hpairings₁.symm, fun hlinks => ?_⟩
  rw [hobjects₁ hlinks, hobjects₂ hlinks]

theorem finish {reports₁ reports₂ : List SourceReport}
    (hpairings : pairings reports₂ = pairings reports₁)
    (hobjects : i.compilesOnly = false → newObjects reports₂ = newObjects reports₁) :
    Twins R (c₁.finish compiler i reports₁) (c₂.finish compiler i reports₂) Eq := by
  have hattach : Twins R (c₁.attachAll reports₁) (c₂.attachAll reports₂) (List.Forall₂ Eq) := by
    unfold attachAll
    rw [hpairings, h.archive, h.embedder]
    refine twins_mapM (fun p _ hp => ?_) (List.forall₂_same.2 fun _ _ => rfl)
    cases hp
    exact twins_attach h.agree h.refl _ _ p
  refine hattach.bind fun _ _ _ => ?_
  cases hcompiles : i.compilesOnly with
  | true => exact twins_pure rfl
  | false =>
      rw [hobjects hcompiles]
      refine twins_say.bind_same fun _ => ?_
      refine (Session.twins_run h.agree (h.refl _)).bind fun v w hvw => ?_
      obtain ⟨rfl, rfl⟩ | ⟨e, e', rfl, rfl⟩ := verdicts_alike hvw
      · exact twins_pure rfl
      · exact twins_say

theorem buildTwice {scratch : Option Path}
    (hmakes : makesObjects (namingOf scratch) = !i.compilesOnly) :
    Twins R (c₁.buildTwice compiler i scratch) (c₂.buildTwice compiler i scratch) Eq := by
  rw [buildTwice_eq, buildTwice_eq]
  refine (h.build hmakes).bind fun a b hanswer => ?_
  obtain ⟨hfailed, hreports⟩ := hanswer
  unfold hasFailed at hfailed hreports
  rw [hfailed]
  split
  · exact (twins_keepScratch scratch).bind_same fun _ => twins_pure rfl
  · next hok =>
    obtain ⟨hpairings, hobjects⟩ := hreports (Bool.eq_false_iff.2 hok)
    refine (h.finish hpairings hobjects).bind_same fun _ => ?_
    exact (twins_removeScratch scratch).bind_same fun _ => twins_pure rfl

/-- **Whole compilations** that are twins, with the same outcome. -/
theorem compile : Twins R (c₁.compile compiler i) (c₂.compile compiler i) Eq := by
  unfold Compilation.compile
  rw [h.configuring]
  split
  · refine Twins.bind (Q := Eq) ?_ fun _ _ heq => twins_pure (congrArg Except.ok heq)
    refine twins_say.bind_same fun _ => ?_
    refine (Job.twins_run h.agree (h.refl _)).bind fun v w hvw => twins_pure ?_
    obtain ⟨rfl, rfl⟩ | ⟨e, e', rfl, rfl⟩ := verdicts_alike hvw <;> rfl
  · refine (twins_makeScratch i).bind fun made _ hmade => ?_
    obtain ⟨rfl, hmakes⟩ := hmade
    split
    · exact twins_pure rfl
    · next scratch =>
      exact (h.buildTwice (hmakes scratch rfl)).bind fun _ _ heq =>
        twins_pure (congrArg Except.ok heq)

end AreTwins

end Compilation

end TwinBuild
